import BoundSql.Proofs.Agreement
import BoundSql.Proofs.Schema.Alike
import BoundSql.Proofs.Text.Occurrence

/-! # Literals in clauses

The clauses of alike columns are read alike: as the literals that each column asks for, with one
text around them. A type with its length, a default and a comment are the parts with literals, and
every other part stands behind a blank, where the literal before it has ended.
-/

namespace BoundSql

open Text (Unquoted)
open Text.Literal (Trailing Twins TwinsAll)

theorem SqlType.unquoted_sql (type : SqlType) : Unquoted type.sql := by
  cases type <;> decide

theorem ReferentialAction.unquoted_sql (a : ReferentialAction) : Unquoted a.sql := by
  cases a <;> decide

theorem DefaultValue.unquoted_of_isTimestamp {s : String} (h : isTimestamp s) : Unquoted s := by
  apply Text.unquoted_of_lower_trim
  simp only [isTimestamp, Bool.or_eq_true, beq_iff_eq] at h
  rcases h with h | h <;> rw [h] <;> decide

theorem DefaultValue.Alike.twins {d e : DefaultValue} (h : d.Alike e)
    (hd : ∀ s, d = .expression s → Unquoted s) : Twins d.sql e.sql d.literals e.literals := by
  have hq : Text.Literal.isQuote '"' := by decide
  cases h with
  | refl =>
    cases d with
    | expression s => exact .unquoted (hd s rfl)
    | literal s =>
      simp only [sql, literals]
      split
      next hs => exact .unquoted (unquoted_of_isTimestamp hs)
      next => exact .literals hq s s
  | literal hs ht =>
    simp only [sql, literals, if_neg hs, if_neg ht]
    exact .literals hq _ _

theorem Length.Alike.twins {l m : Length} (h : l.Alike m) :
    Twins l.sql m.sql l.entries m.entries := by
  have hq : Text.Literal.isQuote '\'' := by decide
  have hcomma : Unquoted "," := by decide
  cases h with
  | refl =>
    cases l with
    | size n => exact .unquoted (Text.unquoted_toString _)
    | precision digits scale =>
      refine .unquoted ?_
      simp only [sql, Text.unquoted_append]
      exact ⟨⟨Text.unquoted_toString _, hcomma⟩, Text.unquoted_toString _⟩
    | values texts => exact TwinsAll.intercalate hcomma (by decide) (.literals hq rfl)
  | values h => exact TwinsAll.intercalate hcomma (by decide) (.literals hq h)

namespace Schema

theorem alphabetic_unsigned : Text.Alphabetic "unsigned" :=
  ⟨by decide, List.all_eq_true.mp (by decide)⟩

theorem mentions_length (l : Length) : Text.mentions (Text.lower l.sql) "unsigned" =
    l.entries.any fun s => Text.mentions (Text.lower s) "unsigned" := by
  have digits (n : Nat) : Text.mentions (Text.lower (toString n)) "unsigned" = false :=
    Text.not_mentions_lower_digits alphabetic_unsigned fun _ => Text.isDigit_of_mem_toString
  cases l with
  | size n => exact digits _
  | precision n m =>
    rw [Length.sql, Text.mentions_lower_append alphabetic_unsigned (x := ',') (by decide)
      (by decide) (by decide), digits, digits]
    rfl
  | values texts => exact Text.mentions_lower_literals alphabetic_unsigned texts

theorem mentions_typeText {c : Column} {s : String} (h : typeText c = .ok s) :
    Text.mentions (Text.lower s) "unsigned" = c.spellsUnsigned := by
  have name (type : SqlType) : Text.mentions (Text.lower type.sql) "unsigned" = false := by
    cases type <;> decide
  rw [typeText] at h
  rw [Column.spellsUnsigned, Column.listed]
  cases htype : c.type with
  | none => simp [htype] at h
  | some type =>
    cases htakes : type.takesLength with
    | false =>
      simp only [htype, htakes, Bool.not_false, if_true, Except.ok.injEq] at h
      simp [← h, htakes, name]
    | true =>
      cases hl : c.length with
      | none => simp [htype, htakes, hl] at h
      | some l =>
        simp only [htype, htakes, hl, Bool.not_true, Bool.false_eq_true, if_false,
          Except.ok.injEq] at h
        have hempty : Text.mentions (Text.lower "") "unsigned" = false := by decide
        have hclose : type.sql ++ "(" ++ l.sql ++ ")" = type.sql ++ "(" ++ l.sql ++ ")" ++ "" :=
          String.append_empty.symm
        rw [← h, hclose, Text.mentions_lower_append alphabetic_unsigned (x := ')') (by decide)
          (by decide) (by decide), Text.mentions_lower_append alphabetic_unsigned (x := '(')
          (by decide) (by decide) (by decide), name, hempty, mentions_length]
        simp [htakes]

theorem alike_typeText {c d : Column} (h : c.Alike d) :
    Agree (fun s t => Twins s t c.listed d.listed) (typeText c) (typeText d) := by
  obtain ⟨length, default, comment, rfl⟩ := h.exists_eq
  have hlength := h.length
  simp only [typeText, Column.listed]
  cases c.type with
  | none => exact .error _
  | some type =>
    cases htakes : type.takesLength with
    | false => simpa [htakes] using Agree.ok (.unquoted type.unquoted_sql)
    | true =>
      have hopen : Unquoted (type.sql ++ "(") := by
        have hp : Unquoted "(" := by decide
        simp [type.unquoted_sql, hp]
      have hclose : Unquoted ")" := by decide
      generalize c.length = l at hlength ⊢
      cases hlength with
      | none => simpa [htakes] using Agree.error _
      | some hl =>
        have htype := (hl.twins.unquoted_append hopen).append_unquoted hclose
        simp only [htakes, Bool.not_true, Bool.false_eq_true, if_false, Option.any_some, if_true,
          Option.toList_some, List.flatMap_singleton]
        exact .ok htype

section Options

variable {α : Type} {keyword cleared : String} {write : α → String} {ofValue : α → List String}
  {s s' : Setting α}

/-- Values that are written as twins, with the given literals. -/
def WrittenAlike (write : α → String) (ofValue : α → List String) (a b : α) : Prop :=
  Twins (write a) (write b) (ofValue a) (ofValue b)

theorem trailing_optionText (hk : Unquoted keyword) (hne : keyword ≠ "")
    (h : s.Alike (WrittenAlike write ofValue) s') :
    Trailing (optionText keyword write s.value?) (optionText keyword write s'.value?)
      (s.literals ofValue []) (s'.literals ofValue []) := by
  cases h with
  | unset => exact .unquoted Text.unquoted_empty
  | set h => exact h.trailing hk hne
  | clear => exact .unquoted Text.unquoted_empty

theorem trailing_settingText (hk : Unquoted keyword) (hne : keyword ≠ "") {texts : List String}
    (hcleared : Trailing cleared cleared texts texts)
    (h : s.Alike (WrittenAlike write ofValue) s') :
    Trailing (settingText keyword write cleared s) (settingText keyword write cleared s')
      (s.literals ofValue texts) (s'.literals ofValue texts) := by
  cases h with
  | unset => exact .unquoted Text.unquoted_empty
  | set h => exact h.trailing hk hne
  | clear => exact hcleared

end Options

theorem unquoted_keywordIf {keyword : String} (h : Unquoted keyword) (present : Bool) :
    Unquoted (keywordIf present keyword) := by
  cases present with
  | false => exact Text.unquoted_empty
  | true => exact h

theorem unquoted_toggleText {on off : String} (hon : Unquoted on) (hoff : Unquoted off)
    (t : Toggle) : Unquoted (toggleText on off t) := by
  cases t with
  | unset => exact Text.unquoted_empty
  | on => exact hon
  | off => exact hoff

theorem unquoted_optionText {α : Type} {keyword : String} {write : α → String} {o : Option α}
    (hk : Unquoted keyword) (h : ∀ a ∈ o, Unquoted (write a)) :
    Unquoted (optionText keyword write o) := by
  cases o with
  | none => exact Text.unquoted_empty
  | some a => exact Text.unquoted_append.mpr ⟨hk, h a rfl⟩

theorem alike_default {c d : Column} (h : c.Alike d) (hc : c.Unquoted) :
    c.default.Alike (WrittenAlike DefaultValue.sql DefaultValue.literals) d.default :=
  h.default.mono fun _ _ ha hab => hab.twins fun s hs => hc.default s (hs ▸ ha)

theorem alike_comment {c d : Column} (h : c.Alike d) :
    c.comment.Alike (WrittenAlike (Text.quoteWith '"') ([·])) d.comment :=
  h.comment.mono fun s t _ _ => .literals (by decide) s t

theorem trailing_clearedComment : Trailing " COMMENT \"\"" " COMMENT \"\"" [""] [""] := by
  have hempty : " COMMENT " ++ Text.quoteWith '"' "" = " COMMENT \"\"" := by decide
  rw [← hempty]
  exact Twins.trailing (by decide) (by decide) (.literals (by decide) "" "")

theorem alike_define {c d : Column} (h : c.Alike d) (hc : c.Unquoted) (key : Option String) :
    Agree (fun x y => Twins x.sql y.sql c.literals d.literals) (define c key) (define d key) := by
  have htypes := alike_typeText h
  have hdefault := alike_default h hc
  have hcomment := alike_comment h
  have hfront : Unquoted (c.name ++ " ") := Text.unquoted_append.mpr ⟨hc.name, by decide⟩
  have honUpdate : Unquoted (optionText " ON UPDATE " id c.onUpdate) :=
    unquoted_optionText (by decide) hc.onUpdate
  have hcount : countsUp d key = countsUp c key := (congrArg (countsUp · key) h.rest.symm :)
  obtain ⟨length, default, comment, rfl⟩ := h.exists_eq
  refine htypes.bind fun {s t} htype => .ok ?_
  simp only [ColumnDefinition.sql, Column.literals, hcount]
  -- Every option stands behind a blank, so that the literal before it has ended there.
  refine .append (.append_unquoted (.append ?_ ?_) honUpdate) ?_
  · refine .append_unquoted (.append_unquoted (.append_unquoted (.append_unquoted
      (htype.unquoted_append hfront) ?_) ?_) ?_) ?_ <;>
    exact unquoted_keywordIf (by decide) _
  · exact trailing_optionText (by decide) (by decide) hdefault
  · exact trailing_optionText (by decide) (by decide) hcomment

def changedType (c : Column) (info : PhysicalColumn) : Except Error String :=
  if c.type.isSome then typeText c else .ok info.type

def changeOf (c : Column) (info : PhysicalColumn) (type : String) : ColumnChange where
  oldName := info.name
  newName := c.renameTo.getD c.name
  type := type
  unsigned := c.unsigned == .on && !Text.mentions (Text.lower type) "unsigned"
  notNull := c.notNull
  autoIncrement := c.autoIncrement == .on
  zerofill := c.zerofill
  default := c.default
  onUpdate := c.onUpdate
  comment := c.comment

theorem changeFrom_eq (c : Column) (info : PhysicalColumn) :
    changeFrom c info = (changedType c info).map (changeOf c info) := by
  unfold changeFrom changedType
  split
  · cases typeText c <;> rfl
  · rfl

theorem alike_changedType {c d : Column} (h : c.Alike d) {info : PhysicalColumn}
    (hi : info.Unquoted) (hsign : c.SameSign d) :
    Agree (fun s t => Twins s t c.listed d.listed ∧ (c.unsigned = .on →
        Text.mentions (Text.lower s) "unsigned" = Text.mentions (Text.lower t) "unsigned"))
      (changedType c info) (changedType d info) := by
  have htypes := alike_typeText h
  have htype : d.type = c.type := (congrArg Column.type h.rest.symm :)
  rw [changedType, changedType, htype]
  split
  next => exact htypes.with_ok.mono fun ⟨htwins, hs, ht⟩ =>
      ⟨htwins, fun hu => by rw [mentions_typeText hs, mentions_typeText ht, hsign hu]⟩
  next hnone =>
    have hc : c.type = none := by simpa using hnone
    have hlisted : c.listed = [] := by simp [Column.listed, hc]
    have hlisted' : d.listed = [] := by simp [Column.listed, htype, hc]
    rw [hlisted, hlisted']
    exact .ok ⟨.unquoted hi.type, fun _ => rfl⟩

theorem alike_changeFrom {c d : Column} (h : c.Alike d) (hc : c.Unquoted) {info : PhysicalColumn}
    (hi : info.Unquoted) (hsign : c.SameSign d) :
    Agree (fun x y => Twins x.sql y.sql c.changeLiterals d.changeLiterals)
      (changeFrom c info) (changeFrom d info) := by
  have htypes := alike_changedType h hi hsign
  have hdefault := alike_default h hc
  have hcomment := alike_comment h
  obtain ⟨length, default, comment, rfl⟩ := h.exists_eq
  rw [changeFrom_eq, changeFrom_eq]
  refine htypes.map fun {s t} ⟨htype, hmentions⟩ => ?_
  have hwritten : (c.unsigned == .on && !Text.mentions (Text.lower s) "unsigned") =
      (c.unsigned == .on && !Text.mentions (Text.lower t) "unsigned") := by
    by_cases hu : c.unsigned = .on
    · rw [hmentions hu]
    · have hoff : (c.unsigned == .on) = false := beq_false_of_ne hu
      rw [hoff, Bool.false_and, Bool.false_and]
  unfold ColumnChange.sql
  simp only [changeOf, Column.changeLiterals, hwritten]
  have hname : Unquoted (c.renameTo.getD c.name) := by
    cases hr : c.renameTo with
    | none => exact hc.name
    | some s => exact hc.renameTo s hr
  have hblank : Unquoted " " := by decide
  have hfront :
      Unquoted ("CHANGE COLUMN " ++ info.name ++ " " ++ c.renameTo.getD c.name ++ " ") := by
    simp only [Text.unquoted_append]
    exact ⟨⟨⟨⟨by decide, hi.name⟩, hblank⟩, hname⟩, hblank⟩
  have honUpdate : Unquoted (optionText " ON UPDATE " id c.onUpdate) :=
    unquoted_optionText (by decide) hc.onUpdate
  refine .append (.append_unquoted (.append ?_ ?_) honUpdate) ?_
  · refine .append_unquoted (.append_unquoted (.append_unquoted (.append_unquoted
      (htype.unquoted_append hfront) ?_) ?_) ?_) ?_
    · exact unquoted_keywordIf (by decide) _
    · exact unquoted_toggleText (by decide) (by decide) _
    · exact unquoted_keywordIf (by decide) _
    · exact unquoted_toggleText (by decide) (by decide) _
  · exact trailing_settingText (by decide) (by decide) (.unquoted (by decide)) hdefault
  · exact trailing_settingText (by decide) (by decide) trailing_clearedComment hcomment

theorem alike_defineAll {l l' : List Column} (h : List.Forall₂ Column.Alike l l')
    (hl : ∀ c ∈ l, c.Unquoted) {key : Option String} (hkey : ∀ s ∈ key, Unquoted s) :
    Agree (fun x y => TwinsAll (x.1.map ColumnDefinition.sql) (y.1.map ColumnDefinition.sql)
        (l.flatMap Column.literals) (l'.flatMap Column.literals) ∧
        x.2 = y.2 ∧ ∀ s ∈ x.2, Unquoted s)
      (defineAll l key) (defineAll l' key) := by
  induction h generalizing key with
  | nil => exact .ok ⟨.nil, rfl, hkey⟩
  | @cons c d l l' hcd _ ih =>
    rw [List.forall_mem_cons] at hl
    have hclaim : claimKey c key = claimKey d key := (congrArg (claimKey · key) hcd.rest :)
    have hkey' : ∀ s ∈ claimKey c key, Unquoted s := by
      intro s hs
      cases key with
      | some k => exact hkey s hs
      | none =>
        rw [claimKey] at hs
        split at hs
        · obtain rfl := Option.some.inj hs
          exact hl.1.name
        · cases hs
    rw [defineAll, defineAll, ← hclaim]
    refine (alike_define hcd hl.1 key).bind fun hsql => ?_
    exact (ih hl.2 hkey').bind fun ⟨hall, hlast⟩ => .ok ⟨.cons hsql hall, hlast⟩

theorem alike_changes {t u : Table} (hname : t.name = u.name) {current : List PhysicalColumn}
    (hcurrent : ∀ c ∈ current, c.Unquoted) {l l' : List Column}
    (h : List.Forall₂ Column.Alike l l') (hl : ∀ c ∈ l, c.Unquoted)
    (hsign : List.Forall₂ Column.SameSign l l') :
    Agree (fun x y => TwinsAll (x.map ColumnChange.sql) (y.map ColumnChange.sql)
        (l.flatMap Column.changeLiterals) (l'.flatMap Column.changeLiterals))
      (l.mapM (change t current)) (l'.mapM (change u current)) := by
  induction h with
  | nil => exact .ok .nil
  | @cons c d l l' hcd _ ih =>
    rw [List.forall_mem_cons] at hl
    rw [List.forall₂_cons] at hsign
    have hchange : Agree (fun x y => Twins x.sql y.sql c.changeLiterals d.changeLiterals)
        (change t current c) (change u current d) := by
      have hcolumn : c.name = d.name := (congrArg Column.name hcd.rest :)
      rw [change, change, ← hcolumn]
      cases hfind : PhysicalColumn.find? current c.name with
      | none =>
        simp only [unknownColumn, hname]
        exact .error _
      | some info =>
        exact alike_changeFrom hcd hl.1 (hcurrent info (List.mem_of_find?_eq_some hfind)) hsign.1
    rw [List.mapM_cons, List.mapM_cons]
    exact hchange.bind fun hsql => (ih hl.2 hsign.2).bind fun hall => .ok (.cons hsql hall)

theorem unquoted_foreignKeySql {k : ForeignKey} (h : k.Unquoted) :
    Unquoted (Clause.foreignKeySql k) := by
  have honUpdate : Unquoted (optionText " ON UPDATE " ReferentialAction.sql k.onUpdate) :=
    unquoted_optionText (by decide) fun a _ => a.unquoted_sql
  have honDelete : Unquoted (optionText " ON DELETE " ReferentialAction.sql k.onDelete) :=
    unquoted_optionText (by decide) fun a _ => a.unquoted_sql
  unfold Clause.foreignKeySql
  simp only [Text.unquoted_append]
  exact ⟨⟨⟨⟨⟨⟨⟨⟨by decide, h.column⟩, by decide⟩, h.referencesTable⟩, by decide⟩,
    h.referencesColumn⟩, by decide⟩, honUpdate⟩, honDelete⟩

theorem twins_clauses {columns columns' : List ColumnDefinition} {ss ts : List String}
    (h : TwinsAll (columns.map ColumnDefinition.sql) (columns'.map ColumnDefinition.sql) ss ts)
    {key : Option String} (hkey : ∀ s ∈ key, Unquoted s) {keys : List ForeignKey}
    (hkeys : ∀ k ∈ keys, k.Unquoted) :
    TwinsAll
      ((columns.map Clause.column ++ keyClause key ++ keys.map Clause.foreignKey).map Clause.sql)
      ((columns'.map Clause.column ++ keyClause key ++ keys.map Clause.foreignKey).map Clause.sql)
      ss ts := by
  have hcolumn : Clause.sql ∘ Clause.column = ColumnDefinition.sql := rfl
  have hkeyClause : ∀ s ∈ (keyClause key).map Clause.sql, Unquoted s := by
    cases key with
    | none => simp [keyClause]
    | some name =>
      have hopen : Unquoted "PRIMARY KEY(" := by decide
      have hclose : Unquoted ")" := by decide
      simp [keyClause, Clause.sql, hopen, hclose, hkey name rfl]
  have hforeign : ∀ s ∈ (keys.map Clause.foreignKey).map Clause.sql, Unquoted s := by
    intro s hs
    rw [List.map_map, List.mem_map] at hs
    obtain ⟨k, hk, rfl⟩ := hs
    exact unquoted_foreignKeySql (hkeys k hk)
  simp only [List.map_append, List.map_map, hcolumn] at hforeign ⊢
  simpa using (h.append (.unquoted hkeyClause)).append (.unquoted hforeign)

end Schema

end BoundSql
