import BoundSql.Proofs.Schema.Clauses

/-! # Options that changes take away

A change writes nothing for an option that it leaves alone, and a text of its own for one that it
takes away. So the two clauses differ by this text and nothing else, and the statements around them
do too. `unsigned` is not taken away like the others: a change that turns it off is the change that
leaves it alone, and the type of the column keeps the attribute if it has it.
-/

namespace BoundSql

/-- A text, and the same text with a piece put in at one place. -/
def Text.Inserts (piece s s' : String) : Prop :=
  ∃ front back, s = front ++ back ∧ s' = front ++ piece ++ back

namespace Text.Inserts

variable {piece s s' : String}

theorem empty (piece : String) : Inserts piece "" piece := by
  refine ⟨"", "", ?_, ?_⟩ <;> simp

theorem append (h : Inserts piece s s') (t : String) : Inserts piece (s ++ t) (s' ++ t) := by
  obtain ⟨front, back, rfl, rfl⟩ := h
  exact ⟨front, back ++ t, String.append_assoc, String.append_assoc⟩

theorem prepend (h : Inserts piece s s') (t : String) : Inserts piece (t ++ s) (t ++ s') := by
  obtain ⟨front, back, rfl, rfl⟩ := h
  refine ⟨t ++ front, back, ?_, ?_⟩ <;> simp only [String.append_assoc]

theorem intercalate (h : Inserts piece s s') (sep : String) (before after : List String) :
    Inserts piece (sep.intercalate (before ++ s :: after))
      (sep.intercalate (before ++ s' :: after)) := by
  induction before with
  | nil =>
    cases after with
    | nil => simpa using h
    | cons t after =>
      rw [List.nil_append, List.nil_append, String.intercalate_cons_cons,
        String.intercalate_cons_cons]
      exact (h.append sep).append _
  | cons t before ih =>
    have hcons (x : String) : sep.intercalate (t :: before ++ x :: after) =
        t ++ sep ++ sep.intercalate (before ++ x :: after) := by
      cases before <;> exact String.intercalate_cons_cons
    rw [hcons, hcons]
    exact ih.prepend _

theorem ne (h : Inserts piece s s') (hpiece : piece ≠ "") : s' ≠ s := by
  obtain ⟨front, back, rfl, rfl⟩ := h
  intro heq
  have hlength := congrArg String.length heq
  simp only [String.length_append] at hlength
  have hzero : piece.length = 0 := by omega
  exact hpiece (String.length_eq_zero_iff.mp hzero)

end Text.Inserts

namespace Schema

open Text (Inserts)

/-- An option that a change can take away from a column. -/
inductive Removal where
  | notNull
  | zerofill
  | default
  | comment
  deriving DecidableEq, Repr

namespace Removal

def text : Removal → String
  | notNull => " NULL"
  | zerofill => " DROP ZEROFILL"
  | default => " DROP DEFAULT"
  | comment => " COMMENT \"\""

def Spares (c : Column) : Removal → Prop
  | notNull => c.notNull = .unset
  | zerofill => c.zerofill = .unset
  | default => c.default = .unset
  | comment => c.comment = .unset

def request (c : Column) : Removal → Column
  | notNull => c.asNullable
  | zerofill => c.withoutZerofill
  | default => c.withoutDefault
  | comment => c.withoutComment

theorem text_ne (r : Removal) : r.text ≠ "" := by
  cases r <;> decide

variable {c : Column} {info : PhysicalColumn} {d : ColumnChange}

theorem name_request (r : Removal) : (r.request c).name = c.name := by
  cases r <;> rfl

theorem changedType_request (r : Removal) :
    changedType (r.request c) info = changedType c info := by
  cases r <;> rfl

theorem inserts_changeOf {r : Removal} (h : r.Spares c) (type : String) :
    Inserts r.text (changeOf c info type).sql (changeOf (r.request c) info type).sql := by
  have toggle (on off : String) :
      Inserts off (toggleText on off .unset) (toggleText on off .off) := .empty off
  have setting {α : Type} (keyword cleared : String) (write : α → String) :
      Inserts cleared (settingText keyword write cleared .unset)
        (settingText keyword write cleared .clear) := .empty cleared
  unfold ColumnChange.sql
  cases r with
  | notNull =>
    have hc : c.notNull = .unset := h
    simp only [changeOf, request, Column.asNullable, hc]
    exact ((((((toggle _ _).prepend _).append _).append _).append _).append _).append _
  | zerofill =>
    have hc : c.zerofill = .unset := h
    simp only [changeOf, request, Column.withoutZerofill, hc]
    exact ((((toggle _ _).prepend _).append _).append _).append _
  | default =>
    have hc : c.default = .unset := h
    simp only [changeOf, request, Column.withoutDefault, hc]
    exact (((setting _ _ _).prepend _).append _).append _
  | comment =>
    have hc : c.comment = .unset := h
    simp only [changeOf, request, Column.withoutComment, hc]
    exact (setting _ _ _).prepend _

theorem inserts_changeFrom {r : Removal} (h : r.Spares c) (hd : changeFrom c info = .ok d) :
    ∃ d', changeFrom (r.request c) info = .ok d' ∧ Inserts r.text d.sql d'.sql := by
  rw [changeFrom_eq] at hd
  obtain ⟨type, htype, rfl⟩ := map_eq_ok.mp hd
  refine ⟨changeOf (r.request c) info type, ?_, inserts_changeOf h type⟩
  rw [changeFrom_eq, changedType_request, htype]
  rfl

end Removal

def changing (t : Table) (before after : List Column) (c : Column) : Table :=
  { t with alteredColumns := before ++ c :: after }

section

variable {t : Table} {before after : List Column} {current : List PhysicalColumn}
  {st : Statement} {c c' : Column} {clauses : List AlterClause}

theorem checkDrops_changing (hname : c'.name = c.name) :
    checkDrops (changing t before after c') current =
      checkDrops (changing t before after c) current := by
  have h (name : String) : checkDrop (changing t before after c') current name =
      checkDrop (changing t before after c) current name := by
    simp only [checkDrop, changing, List.any_append, List.any_cons, hname]
    rfl
  rw [checkDrops, checkDrops, funext h]
  rfl

/-- A change that takes the place of another, of the same column, takes its place among the clauses
too, and the rest of the alteration stays as it is. -/
theorem alterClauses_changing (h : alterClauses (changing t before after c) current = .ok clauses) :
    ∃ d front back, change t current c = .ok d ∧ clauses = front ++ .change d :: back ∧
      ∀ {c' d'}, c'.name = c.name → change t current c' = .ok d' →
        alterClauses (changing t before after c') current = .ok (front ++ .change d' :: back) := by
  rw [alterClauses_eq] at h
  obtain ⟨⟨⟩, hdrops, h⟩ := bind_eq_ok.mp h
  obtain ⟨changes, hchanges, h⟩ := bind_eq_ok.mp h
  obtain ⟨key, hkey, h⟩ := bind_eq_ok.mp h
  obtain ⟨⟨ds, last⟩, hds, h⟩ := bind_eq_ok.mp h
  obtain ⟨⟨⟩, hkeys, h⟩ := bind_eq_ok.mp h
  obtain rfl := Except.ok.inj h
  obtain ⟨first, d, rest, hfirst, hd, hrest, rfl⟩ := mapM_append_cons_eq_ok.mp hchanges
  have hclauses (d : ColumnChange) (added : Option String) (c : Column) :
      clausesOf (changing t before after c) (first ++ d :: rest) ds added =
        t.droppedColumns.map .drop ++ first.map .change ++ .change d :: (rest.map .change ++
          (ds.map Clause.column ++ keyClause added ++
            t.foreignKeys.map Clause.foreignKey).map .add) := by
    simp [clausesOf, changing]
  refine ⟨d, _, _, hd, hclauses .., fun {c' d'} hname hd' => ?_⟩
  rw [← hclauses _ _ c', alterClauses_eq, checkDrops_changing hname]
  have hchanges' := mapM_append_cons_eq_ok.mpr ⟨first, d', rest, hfirst, hd', hrest, rfl⟩
  -- No stage behind the changes looks at what they ask for.
  exact bind_eq_ok.mpr ⟨_, hdrops, bind_eq_ok.mpr ⟨_, hchanges', bind_eq_ok.mpr ⟨key, hkey,
    bind_eq_ok.mpr ⟨(ds, last), hds, bind_eq_ok.mpr ⟨_, hkeys, rfl⟩⟩⟩⟩⟩

theorem alter_changing (h : alter (changing t before after c) current = .ok st) :
    ∃ info d front back, PhysicalColumn.find? current c.name = some info ∧
      changeFrom c info = .ok d ∧
      MadeOf (changing t before after c) current st (front ++ .change d :: back) ∧
      ∀ c' d', c'.name = c.name → changeFrom c' info = .ok d' →
        ∃ st', alter (changing t before after c') current = .ok st' ∧
          MadeOf (changing t before after c') current st' (front ++ .change d' :: back) := by
  obtain ⟨-, _, _, -, hmade⟩ := madeOf_of_alter h
  obtain ⟨d, front, back, hd, hclauses, hothers⟩ := alterClauses_changing hmade.made
  obtain ⟨info, hinfo, hfrom⟩ := (settled_change c).of_eq_ok hd
  rw [hclauses] at hmade
  refine ⟨info, d, front, back, hinfo, hfrom, hmade, fun c' d' hname hfrom' => ?_⟩
  have hd' : change t current c' = .ok d' := by
    rw [change, hname, hinfo]
    exact hfrom'
  exact alter_of_alterClauses (hothers hname hd') (by simp)

theorem MadeOf.inserts {piece : String} {st' : Statement} {front back : List AlterClause}
    {d d' : ColumnChange} (hpiece : Inserts piece d.sql d'.sql)
    (h : MadeOf (changing t before after c) current st (front ++ .change d :: back))
    (h' : MadeOf (changing t before after c') current st' (front ++ .change d' :: back)) :
    Inserts piece st.sql st'.sql := by
  rw [h.text, h'.text]
  simp only [List.map_append, List.map_cons]
  exact ((hpiece.intercalate ", " _ _).prepend _).append _

theorem changeFrom_unsigned {info : PhysicalColumn} (h : c.unsigned = .unset) :
    changeFrom { c with unsigned := .off } info = changeFrom c info := by
  rw [changeFrom_eq, changeFrom_eq]
  have hchange : changeOf { c with unsigned := .off } info = changeOf c info := by
    funext type
    rw [changeOf, changeOf, h]
    rfl
  rw [hchange]
  rfl

theorem type_of_changeFrom {info : PhysicalColumn} {d : ColumnChange}
    (h : changeFrom c info = .ok d) (hc : c.type = none) : d.type = info.type := by
  rw [changeFrom_eq, changedType, hc] at h
  obtain rfl := Except.ok.inj h
  rfl

/-- A change that takes an option away differs from the change that leaves it alone by the text of
the removal, and so does the whole statement. For `unsigned` there is no difference: a change that
keeps the type of its column keeps the attribute with it. -/
theorem alter_tells_removals (t : Table) (before after : List Column) (c : Column)
    (current : List PhysicalColumn) {st : Statement}
    (h : alter (changing t before after c) current = .ok st) :
    ∃ info d front back, PhysicalColumn.find? current c.name = some info ∧
      changeFrom c info = .ok d ∧
      MadeOf (changing t before after c) current st (front ++ .change d :: back) ∧
      (∀ r : Removal, r.Spares c → ∃ d' st', changeFrom (r.request c) info = .ok d' ∧
        alter (changing t before after (r.request c)) current = .ok st' ∧
        MadeOf (changing t before after (r.request c)) current st' (front ++ .change d' :: back) ∧
        Inserts r.text d.sql d'.sql ∧ d'.sql ≠ d.sql ∧
        Inserts r.text st.sql st'.sql ∧ st'.sql ≠ st.sql) ∧
      (c.type = none → d.type = info.type) ∧
      (c.unsigned = .unset → changeFrom { c with unsigned := .off } info = .ok d ∧
        alter (changing t before after { c with unsigned := .off }) current = .ok st) := by
  obtain ⟨info, d, front, back, hinfo, hd, hmade, hothers⟩ := alter_changing h
  refine ⟨info, d, front, back, hinfo, hd, hmade, fun r hr => ?_, type_of_changeFrom hd,
    fun hc => ?_⟩
  · obtain ⟨d', hd', hinserts⟩ := Removal.inserts_changeFrom hr hd
    obtain ⟨st', hst', hmade'⟩ := hothers _ d' r.name_request hd'
    have hwhole := MadeOf.inserts hinserts hmade hmade'
    exact ⟨d', st', hd', hst', hmade', hinserts, hinserts.ne r.text_ne, hwhole,
      hwhole.ne r.text_ne⟩
  · have hd' := (changeFrom_unsigned hc).trans hd
    obtain ⟨st', hst', hmade'⟩ := hothers { c with unsigned := .off } d rfl hd'
    have hst : st' = st := hmade'.text.trans hmade.text.symm
    exact ⟨hd', hst ▸ hst'⟩

/-- A change that leaves four options alone and keeps its type, between other requests. -/
def tasks : Table where
  name := "tasks"
  columns := [{ name := "due", type := some .date }]
  droppedColumns := ["legacy"]

def tasksColumns : List PhysicalColumn :=
  [⟨"id", "INT(10) UNSIGNED", false, "PRI", none, ""⟩, ⟨"legacy", "text", true, "", none, ""⟩,
    ⟨"state", "tinyint(1)", true, "", none, ""⟩]

theorem alter_tells_removals_of_tasks :
    let before : List Column := [{ name := "state", comment := .clear }]
    let c : Column := { name := "Id", renameTo := some "task", autoIncrement := .on }
    let st : Statement := ⟨"ALTER TABLE tasks DROP COLUMN legacy, " ++
      "CHANGE COLUMN state state tinyint(1) COMMENT \"\", " ++
      "CHANGE COLUMN id task INT(10) UNSIGNED AUTO_INCREMENT, ADD due DATE;", []⟩
    alter (changing tasks before [] c) tasksColumns = .ok st ∧
      (∃ st', alter (changing tasks before [] { c with zerofill := .off }) tasksColumns = .ok st' ∧
        Inserts " DROP ZEROFILL" st.sql st'.sql ∧ st'.sql ≠ st.sql) ∧
      alter (changing tasks before [] { c with unsigned := .off }) tasksColumns = .ok st := by
  intro before c st
  have h : alter (changing tasks before [] c) tasksColumns = .ok st := by decide +kernel
  obtain ⟨_, _, _, _, -, -, -, hremovals, -, hunsigned⟩ :=
    alter_tells_removals tasks before [] c tasksColumns h
  obtain ⟨_, st', -, hst', -, -, -, hinserts, hne⟩ := hremovals .zerofill rfl
  exact ⟨h, ⟨st', hst', hinserts, hne⟩, (hunsigned rfl).2⟩

theorem unsigned_stays :
    let t (c : Column) : Table := { name := "users", alteredColumns := [c] }
    let c : Column := { name := "id" }
    let info : PhysicalColumn := ⟨"id", "int(10) unsigned", false, "PRI", none, ""⟩
    let st : Statement := ⟨"ALTER TABLE users CHANGE COLUMN id id int(10) unsigned;", []⟩
    c.unsigned = .unset ∧ c.type = none ∧ Text.mentions info.type "unsigned" ∧
      alter (t c) [info] = .ok st ∧ alter (t { c with unsigned := .off }) [info] = .ok st ∧
      ∃ d, changeFrom c info = .ok d ∧ changeFrom { c with unsigned := .off } info = .ok d ∧
        Text.mentions d.type "unsigned" := by
  intro t c info st
  have halter : alter (t c) [info] = .ok st := by decide +kernel
  have halter' : alter (t { c with unsigned := .off }) [info] = .ok st := by decide +kernel
  exact ⟨rfl, rfl, by decide +kernel, halter, halter', changeOf c info info.type, by decide +kernel,
    by decide +kernel, by decide +kernel⟩

end

end Schema

end BoundSql
