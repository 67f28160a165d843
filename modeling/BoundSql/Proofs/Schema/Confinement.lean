import BoundSql.Proofs.Schema.Literal

/-! # Literals in statements about tables

The literals of a statement that creates or alters a table spell the texts of the table in order,
and no text, whatever it is, reaches outside its literal. One text can be felt outside: `unsigned`
is not written behind the type of a changed column when the type mentions it, an entry of its value
list included.
-/

namespace BoundSql.Schema

open Text (Unquoted)
open Text.Literal (Twins TwinsAll)

/-- The texts that statements spell as literals, in order; none if one ends inside a literal. -/
def literalsOf (sts : List Statement) : Option (List String) :=
  (sts.mapM (Text.Literal.all ·.sql)).map List.flatten

def framesOf (sts : List Statement) : List String :=
  sts.map (Text.Literal.frame ·.sql)

/-- Statements that spell the given texts, with the same text around them. -/
structure Confined (sts sts' : List Statement) (ss ts : List String) : Prop where
  left : literalsOf sts = some ss
  right : literalsOf sts' = some ts
  frames : framesOf sts = framesOf sts'

theorem confined_of_twins {s t : String} {ss ts : List String} (h : Twins s t ss ts) :
    Confined [⟨s ++ ";", []⟩] [⟨t ++ ";", []⟩] ss ts := by
  obtain ⟨f, hs, ht⟩ := h
  constructor
  · simp [literalsOf, hs.terminated.1]
  · simp [literalsOf, ht.terminated.1]
  · simp [framesOf, hs.terminated.2, ht.terminated.2]

theorem Confined.append {sts sts' more more' : List Statement} {ss ts ss' ts' : List String}
    (h : Confined sts sts' ss ts) (k : Confined more more' ss' ts') :
    Confined (sts ++ more) (sts' ++ more') (ss ++ ss') (ts ++ ts') := by
  have literals_append {l l' : List Statement} {a b : List String} (hl : literalsOf l = some a)
      (hl' : literalsOf l' = some b) : literalsOf (l ++ l') = some (a ++ b) := by
    simp only [literalsOf, Option.map_eq_some_iff] at hl hl' ⊢
    obtain ⟨as, has, rfl⟩ := hl
    obtain ⟨bs, hbs, rfl⟩ := hl'
    exact ⟨as ++ bs, by simp [List.mapM_append, has, hbs], List.flatten_append⟩
  constructor
  · exact literals_append h.left k.left
  · exact literals_append h.right k.right
  · have hs := h.frames
    have ks := k.frames
    simp only [framesOf, List.map_append] at hs ks ⊢
    rw [hs, ks]

theorem unquoted_declaredKey {t : Table} (h : t.Unquoted) :
    ∀ s ∈ declaredKey t, Unquoted s := by
  intro s hs
  rw [declaredKey] at hs
  split at hs
  next c hc =>
    obtain rfl := Option.some.inj hs
    exact (h.columns c (List.mem_reverse.mp (List.mem_of_find?_eq_some hc))).name
  next => exact h.primaryKey s hs

theorem alike_definition {t u : Table} (h : t.Alike u) (ht : t.Unquoted) :
    Agree (fun x y => TwinsAll (x.1.map Clause.sql) (y.1.map Clause.sql)
      (t.columns.flatMap Column.literals) (u.columns.flatMap Column.literals))
      (definition t) (definition u) := by
  have hcheck : checkDefinition t = checkDefinition u := by
    rw [← checkDefinition_bare t, h.rest, checkDefinition_bare]
  have hkey : declaredKey u = declaredKey t := by
    rw [← declaredKey_bare u, ← h.rest, declaredKey_bare]
  have hcolumns := alike_defineAll h.columns ht.columns (unquoted_declaredKey ht)
  obtain ⟨columns, alteredColumns, rfl⟩ := h.exists_eq
  rw [definition_eq, definition_eq, hkey]
  refine (Agree.of_eq hcheck).bind fun _ => hcolumns.map fun {x y} hxy => ?_
  rcases x with ⟨xs, key⟩
  rcases y with ⟨ys, key'⟩
  obtain ⟨hall, hlast : key = key', hunquoted⟩ := hxy
  subst hlast
  exact twins_clauses hall hunquoted ht.foreignKeys

theorem alike_create {t u : Table} (h : t.Alike u) (ht : t.Unquoted) (mode : CreateMode) :
    Agree (fun x y => Confined x.1 y.1 (t.columns.flatMap Column.literals)
      (u.columns.flatMap Column.literals)) (create t mode) (create u mode) := by
  have hclauses := alike_definition h ht
  obtain ⟨columns, alteredColumns, rfl⟩ := h.exists_eq
  refine hclauses.bind fun {x y} hall => .ok ?_
  have hsep : Unquoted ", " := by decide
  have hbody := hall.intercalate hsep (by decide)
  have hfront : Unquoted ("CREATE TABLE " ++ keywordIf (mode == .ifNotExists) "IF NOT EXISTS " ++
      t.name ++ " (") := by
    simp only [Text.unquoted_append]
    exact ⟨⟨⟨by decide, unquoted_keywordIf (by decide) _⟩, ht.name⟩, by decide⟩
  have hstatement : Confined [⟨(creation t mode x.1).sql, []⟩]
      [⟨(creation { t with columns, alteredColumns } mode y.1).sql, []⟩]
      (t.columns.flatMap Column.literals) (columns.flatMap Column.literals) :=
    confined_of_twins (.append_unquoted (.append_unquoted (.append_unquoted (.append_unquoted
      (hbody.unquoted_append hfront) (by decide)) ht.engine) (by decide)) ht.charset)
  have hdrop : Confined [⟨dropSql t.name, []⟩] [⟨dropSql t.name, []⟩] [] [] :=
    confined_of_twins (.unquoted (Text.unquoted_append.mpr ⟨by decide, ht.name⟩))
  cases mode with
  | plain | ifNotExists => exact hstatement
  | dropIfExists => exact hdrop.append hstatement

theorem unquoted_existingKey {current : List PhysicalColumn}
    (h : ∀ c ∈ current, c.Unquoted) : ∀ s ∈ existingKey current, Unquoted s := by
  intro s hs
  obtain ⟨c, hc, rfl⟩ := Option.map_eq_some_iff.mp hs
  exact (h c (List.mem_of_find?_eq_some hc)).name

theorem unquoted_keyBefore {t : Table} (ht : t.Unquoted) {existing key : Option String}
    (he : ∀ s ∈ existing, Unquoted s) (h : keyBefore t existing = .ok key) :
    ∀ s ∈ key, Unquoted s := by
  have hd := unquoted_declaredKey ht
  unfold keyBefore at h
  split at h
  next e d _ =>
    split at h
    · rw [← Except.ok.inj h]
      exact he
    · cases h
  next e _ =>
    rw [← Except.ok.inj h]
    exact he
  next =>
    rw [← Except.ok.inj h]
    exact hd

theorem unquoted_addedKey {existing key : Option String} (h : ∀ s ∈ key, Unquoted s) :
    ∀ s ∈ addedKey existing key, Unquoted s := by
  intro s hs
  cases existing with
  | none => exact h s hs
  | some e => cases hs

theorem map_clausesOf (t : Table) (changes : List ColumnChange) (columns : List ColumnDefinition)
    (added : Option String) : (clausesOf t changes columns added).map AlterClause.sql =
      (t.droppedColumns.map AlterClause.drop).map AlterClause.sql ++
      changes.map ColumnChange.sql ++
      ((columns.map Clause.column ++ keyClause added ++ t.foreignKeys.map Clause.foreignKey).map
        Clause.sql).map ("ADD " ++ ·) := by
  simp only [clausesOf, List.map_append, List.map_map]
  rfl

theorem twins_clausesOf {t u : Table} (h : t.Alike u) (ht : t.Unquoted)
    {changes changes' : List ColumnChange} {columns columns' : List ColumnDefinition}
    {ss ts ss' ts' : List String}
    (hchanges : TwinsAll (changes.map ColumnChange.sql) (changes'.map ColumnChange.sql) ss ts)
    (hcolumns : TwinsAll (columns.map ColumnDefinition.sql) (columns'.map ColumnDefinition.sql)
      ss' ts') {added : Option String} (hadded : ∀ s ∈ added, Unquoted s) :
    TwinsAll ((clausesOf t changes columns added).map AlterClause.sql)
      ((clausesOf u changes' columns' added).map AlterClause.sql) (ss ++ ss') (ts ++ ts') := by
  obtain ⟨_, _, rfl⟩ := h.exists_eq
  have hdrops : TwinsAll ((t.droppedColumns.map AlterClause.drop).map AlterClause.sql)
      ((t.droppedColumns.map AlterClause.drop).map AlterClause.sql) [] [] := by
    refine .unquoted fun s hs => ?_
    rw [List.map_map, List.mem_map] at hs
    obtain ⟨name, hname, rfl⟩ := hs
    exact Text.unquoted_append.mpr ⟨by decide, ht.droppedColumns name hname⟩
  have hadd : Unquoted "ADD " := by decide
  have hadditions := (twins_clauses hcolumns hadded ht.foreignKeys).map hadd
  rw [map_clausesOf, map_clausesOf]
  simpa using (hdrops.append hchanges).append hadditions

theorem alike_alterClauses {t u : Table} (h : t.Alike u) (ht : t.Unquoted)
    {current : List PhysicalColumn} (hcurrent : ∀ c ∈ current, c.Unquoted)
    (hsign : List.Forall₂ Column.SameSign t.alteredColumns u.alteredColumns) :
    Agree (fun x y => TwinsAll (x.map AlterClause.sql) (y.map AlterClause.sql)
      (t.alteredColumns.flatMap Column.changeLiterals ++ t.columns.flatMap Column.literals)
      (u.alteredColumns.flatMap Column.changeLiterals ++ u.columns.flatMap Column.literals))
      (alterClauses t current) (alterClauses u current) := by
  have hname : t.name = u.name := (congrArg Table.name h.rest :)
  have hdrops : checkDrops t current = checkDrops u current := by
    rw [← checkDrops_bare t, h.rest, checkDrops_bare]
  have hbefore : keyBefore t (existingKey current) = keyBefore u (existingKey current) := by
    rw [← keyBefore_bare t, h.rest, keyBefore_bare]
  have hkeys (added) : checkKeys t current added = checkKeys u current added := by
    rw [← checkKeys_bare t, h.rest, checkKeys_bare]
  rw [alterClauses_eq, alterClauses_eq]
  refine (Agree.of_eq hdrops).bind fun _ =>
    (alike_changes hname hcurrent h.alteredColumns ht.alteredColumns hsign).bind fun hchanges =>
    (Agree.of_eq hbefore).with_ok.bind fun {key key'} ⟨hkey, hok, _⟩ => ?_
  subst hkey
  have hunquoted := unquoted_keyBefore ht (unquoted_existingKey hcurrent) hok
  refine (alike_defineAll h.columns ht.columns hunquoted).bind fun {x y} hxy => ?_
  rcases x with ⟨xs, last⟩
  rcases y with ⟨ys, last'⟩
  obtain ⟨hcolumns, hlast : last = last', hlastUnquoted⟩ := hxy
  subst hlast
  refine (Agree.of_eq (hkeys _)).bind fun _ => .ok ?_
  exact twins_clausesOf h ht hchanges hcolumns (unquoted_addedKey hlastUnquoted)

theorem alike_alter {t u : Table} (h : t.Alike u) (ht : t.Unquoted)
    {current : List PhysicalColumn} (hcurrent : ∀ c ∈ current, c.Unquoted)
    (hsign : List.Forall₂ Column.SameSign t.alteredColumns u.alteredColumns) :
    Agree (fun x y => Confined [x] [y]
      (t.alteredColumns.flatMap Column.changeLiterals ++ t.columns.flatMap Column.literals)
      (u.alteredColumns.flatMap Column.changeLiterals ++ u.columns.flatMap Column.literals))
      (alter t current) (alter u current) := by
  have hname : u.name = t.name := (congrArg Table.name h.rest.symm :)
  refine (alike_alterClauses h ht hcurrent hsign).bind fun {x y} hall => ?_
  rw [hname]
  have hempty : x.isEmpty = y.isEmpty := by
    simpa using hall.isEmpty_eq
  rw [hempty]
  split
  · exact .error _
  · have hfront : Unquoted ("ALTER TABLE " ++ t.name ++ " ") := by
      simp only [Text.unquoted_append]
      exact ⟨⟨by decide, ht.name⟩, by decide⟩
    have hsep : Unquoted ", " := by decide
    have hbody := hall.intercalate hsep (by decide)
    exact .ok (confined_of_twins (hbody.unquoted_append hfront))

/-- Whatever the texts of literals are, the statements that create or alter a table spell exactly
them, in order, and end outside every literal. What stands around the literals of a creation does
not depend on them, and neither does what stands around those of an alteration, as long as the value
lists mention `unsigned` alike. -/
theorem literals_of_unquoted {t : Table} (ht : t.Unquoted) {current : List PhysicalColumn}
    (hcurrent : ∀ c ∈ current, c.Unquoted) :
    (∀ mode sts t', create t mode = .ok (sts, t') →
      literalsOf sts = some (t.columns.flatMap Column.literals)) ∧
    (∀ st, alter t current = .ok st → literalsOf [st] =
      some (t.alteredColumns.flatMap Column.changeLiterals ++
        t.columns.flatMap Column.literals)) ∧
    ∀ u, t.Alike u →
      (∀ mode, Agree (fun x y => framesOf x.1 = framesOf y.1) (create t mode) (create u mode)) ∧
      (List.Forall₂ Column.SameSign t.alteredColumns u.alteredColumns →
        Agree (fun x y => framesOf [x] = framesOf [y]) (alter t current) (alter u current)) := by
  refine ⟨fun mode sts t' hcreate => ?_, fun st halter => ?_, fun u h => ⟨fun mode => ?_,
    fun hsign => ?_⟩⟩
  · have hself := alike_create (.refl t) ht mode
    rw [hcreate] at hself
    cases hself with
    | ok hself => exact hself.left
  · have hself := alike_alter (.refl t) ht hcurrent (List.forall₂_same.mpr fun _ _ _ => rfl)
    rw [halter] at hself
    cases hself with
    | ok hself => exact hself.left
  · exact (alike_create h ht mode).mono Confined.frames
  · exact (alike_alter h ht hcurrent hsign).mono Confined.frames

/-- Quotes and backslashes in every literal of an alteration, against harmless texts. -/
theorem literals_of_hostile_texts :
    let table (mood plain note kind : String) : Table := {
      name := "pets"
      columns := [{
        name := "mood"
        type := some .enum
        length := some (.values ["calm", mood])
        default := .set (.literal plain)
        comment := .set note }]
      alteredColumns := [{
        name := "kind"
        default := .set (.literal kind)
        comment := .clear }] }
    let t := table "it's, '" "x\" --" "C:\\" "\\\"; DROP TABLE pets"
    let u := table "sad" "calm" "note" "cat"
    let current : List PhysicalColumn := [⟨"kind", "varchar(32)", true, "", none, ""⟩]
    t.Unquoted ∧ (∀ c ∈ current, c.Unquoted) ∧ t.Alike u ∧
      (∀ st, alter t current = .ok st → literalsOf [st] = some
        ["\\\"; DROP TABLE pets", "", "calm", "it's, '", "x\" --", "C:\\"]) ∧
      (alter t current).isOk ∧
      Agree (fun x y => framesOf [x] = framesOf [y]) (alter t current) (alter u current) := by
  intro table t u current
  have ht : t.Unquoted := {
    name := by decide
    engine := by decide
    charset := by decide
    columns := by
      refine List.forall_mem_singleton.mpr ⟨by decide, ?_, ?_, ?_⟩ <;> simp
    droppedColumns := by simp [t, table]
    alteredColumns := by
      refine List.forall_mem_singleton.mpr ⟨by decide, ?_, ?_, ?_⟩ <;> simp
    primaryKey := by simp [t, table]
    foreignKeys := by simp [t, table] }
  have hcurrent : ∀ c ∈ current, c.Unquoted :=
    List.forall_mem_singleton.mpr ⟨by decide, by decide⟩
  have halike : t.Alike u := {
    columns := .cons ⟨.some (.values rfl), .set (.literal (by decide) (by decide)),
      .set trivial, rfl⟩ .nil
    alteredColumns := .cons ⟨.none, .set (.literal (by decide) (by decide)), .clear, rfl⟩ .nil
    rest := rfl }
  have hsign : List.Forall₂ Column.SameSign t.alteredColumns u.alteredColumns :=
    .cons (fun _ => rfl) .nil
  have h := literals_of_unquoted ht hcurrent
  exact ⟨ht, hcurrent, halike, h.2.1, by decide, (h.2.2 u halike).2 hsign⟩

/-- An entry of a value list that mentions `unsigned` takes the word out of the text around the
literals: the tables differ in this entry only. -/
theorem frames_of_entry_unsigned :
    let table (entry : String) : Table := {
      name := "t"
      alteredColumns := [{
        name := "c"
        type := some .enum
        length := some (.values [entry])
        unsigned := .on }] }
    let current : List PhysicalColumn := [⟨"c", "int(10)", true, "", none, ""⟩]
    (table "unsigned").Unquoted ∧ (∀ c ∈ current, c.Unquoted) ∧
      (table "unsigned").Alike (table "a") ∧
      alter (table "unsigned") current =
        .ok ⟨"ALTER TABLE t CHANGE COLUMN c c ENUM('unsigned');", []⟩ ∧
      alter (table "a") current =
        .ok ⟨"ALTER TABLE t CHANGE COLUMN c c ENUM('a') unsigned;", []⟩ ∧
      ¬ Agree (fun x y => framesOf [x] = framesOf [y])
        (alter (table "unsigned") current) (alter (table "a") current) := by
  intro table current
  have ht : (table "unsigned").Unquoted := {
    name := by decide
    engine := by decide
    charset := by decide
    columns := by simp [table]
    droppedColumns := by simp [table]
    alteredColumns := by
      refine List.forall_mem_singleton.mpr ⟨by decide, ?_, ?_, ?_⟩ <;> simp
    primaryKey := by simp [table]
    foreignKeys := by simp [table] }
  have hcurrent : ∀ c ∈ current, c.Unquoted :=
    List.forall_mem_singleton.mpr ⟨by decide, by decide⟩
  have halike : (table "unsigned").Alike (table "a") := {
    columns := .nil
    alteredColumns := .cons ⟨.some (.values rfl), .unset, .unset, rfl⟩ .nil
    rest := rfl }
  have hleft : alter (table "unsigned") current =
      .ok ⟨"ALTER TABLE t CHANGE COLUMN c c ENUM('unsigned');", []⟩ := by
    decide
  have hright : alter (table "a") current =
      .ok ⟨"ALTER TABLE t CHANGE COLUMN c c ENUM('a') unsigned;", []⟩ := by
    decide
  refine ⟨ht, hcurrent, halike, hleft, hright, fun hagree => ?_⟩
  rw [hleft, hright] at hagree
  cases hagree with
  | ok h => exact absurd h (by decide)

end BoundSql.Schema
