import BoundSql.Proofs.Schema.Clauses
import BoundSql.Proofs.Table.Call
import Mathlib.Data.List.Nodup
import Mathlib.Data.List.Pairwise

/-! # The columns of an altered table

An alteration takes columns away by drops and changes of names, and gives columns by changes and
additions. A key is looked up among the physical columns as they were and those that are added: it
stands on a column of the altered table unless the same alteration takes that column away.

Drops and changes are looked up without regard to case. A drop never meets a change on one physical
column, but the calls that describe a table tell names apart that differ in case alone, and so two
drops or two changes may meet.
-/

namespace BoundSql.Schema

def Listed (names : List String) (name : String) : Prop :=
  ∃ other ∈ names, Text.sameName other name

instance (names : List String) (name : String) : Decidable (Listed names name) :=
  inferInstanceAs (Decidable (∃ other ∈ names, _))

/-- Whether a clause takes a column away: by a drop, or by a change to another name. -/
def AlterClause.removes (name : String) : AlterClause → Bool
  | drop column => Text.sameName column name
  | change c => Text.sameName c.oldName name && !Text.sameName c.newName name
  | add _ => false

/-- The column that a clause gives: the new name of a changed one, or an added one. -/
def AlterClause.gives? : AlterClause → Option String
  | change c => some c.newName
  | add (.column d) => some d.name
  | _ => none

def given (clauses : List AlterClause) : List String :=
  clauses.filterMap AlterClause.gives?

/-- The names of the columns that a table has after some clauses, carried out at once. -/
def columnsAfter (current : List PhysicalColumn) (clauses : List AlterClause) : List String :=
  (current.map (·.name)).filter (fun name => !clauses.any (·.removes name)) ++ given clauses

def Clause.keyColumn? : Clause → Option String
  | column _ => none
  | primaryKey name => some name
  | foreignKey k => some k.column

def keyColumns (clauses : List AlterClause) : List String :=
  (additions clauses).filterMap Clause.keyColumn?

section

variable {t : Table} {current : List PhysicalColumn} {st : Statement}
  {clauses : List AlterClause} {changes : List ColumnChange} {ds : List ColumnDefinition}

theorem AlterClause.removes_congr {name other : String} (h : Text.sameName name other = true)
    (clause : AlterClause) : clause.removes name = clause.removes other := by
  rw [Text.sameName_iff] at h
  cases clause <;> simp [removes, Text.sameName, h]

theorem Listed.append_left {names : List String} {name : String} (h : Listed names name)
    (others : List String) : Listed (others ++ names) name := by
  obtain ⟨other, hother, hsame⟩ := h
  exact ⟨other, List.mem_append_right _ hother, hsame⟩

theorem listed_columnsAfter_of_named {name : String} (hname : PhysicalColumn.Named current name)
    (hkept : ∀ clause ∈ clauses, clause.removes name = false) :
    Listed (columnsAfter current clauses) name := by
  obtain ⟨p, hp, hsame⟩ := hname
  refine ⟨p.name, List.mem_append_left _ (List.mem_filter.mpr ⟨List.mem_map_of_mem hp, ?_⟩), hsame⟩
  rw [Bool.not_eq_true', List.any_eq_false]
  intro clause hclause
  rw [AlterClause.removes_congr hsame, hkept clause hclause]
  exact Bool.false_ne_true

theorem kept_or_given {name : String} (h : Listed (columnsAfter current clauses) name) :
    (∀ clause ∈ clauses, clause.removes name = false) ∨ Listed (given clauses) name := by
  obtain ⟨other, hother, hsame⟩ := h
  rcases List.mem_append.mp hother with hother | hother
  · left
    intro clause hclause
    have hkept := (List.mem_filter.mp hother).2
    rw [Bool.not_eq_true', List.any_eq_false] at hkept
    rw [← AlterClause.removes_congr hsame]
    exact Bool.eq_false_iff.mpr (hkept clause hclause)
  · exact Or.inr ⟨other, hother, hsame⟩

theorem keyColumns_clausesOf : keyColumns (clausesOf t changes ds (newKey t current)) =
    (newKey t current).toList ++ t.foreignKeys.map (·.column) := by
  have hkey : (keyClause (newKey t current)).filterMap Clause.keyColumn? =
      (newKey t current).toList := by
    cases newKey t current <;> rfl
  simp [keyColumns, additions_clausesOf, hkey, Clause.keyColumn?, List.filterMap_map,
    Function.comp_def]

theorem name_mem_given (hcomes : ComesTo t current changes ds) {c : Column} (hc : c ∈ t.columns)
    (added : Option String) : c.name ∈ given (clausesOf t changes ds added) := by
  have hname : c.name ∈ ds.map (·.name) := hcomes.columns.names ▸ List.mem_map_of_mem hc
  obtain ⟨d, hd, hname⟩ := List.mem_map.mp hname
  refine List.mem_filterMap.mpr ⟨.add (.column d), ?_, congrArg some hname⟩
  simp [clausesOf, hd]

theorem known_of_mem_keyColumns (hmet : Alterable t current) {column : String}
    (h : column ∈ keyColumns (clausesOf t changes ds (newKey t current))) :
    Known t current column := by
  rw [keyColumns_clausesOf] at h
  rcases List.mem_append.mp h with h | h
  · exact hmet.newKey column (Option.mem_toList.mp h)
  · obtain ⟨k, hk, rfl⟩ := List.mem_map.mp h
    exact hmet.foreignKeys k hk

end

/-- A key that an alteration adds stands on a column of the altered table exactly if no clause takes
the column away or some clause gives one of its name. -/
theorem alter_keyColumns {t : Table} {current : List PhysicalColumn} {st : Statement}
    (h : alter t current = .ok st) :
    ∃ clauses, MadeOf t current st clauses ∧ ∀ column ∈ keyColumns clauses,
      (Listed (columnsAfter current clauses) column ↔
        (∀ clause ∈ clauses, clause.removes column = false) ∨ Listed (given clauses) column) := by
  obtain ⟨hmet, changes, ds, hcomes, hmade⟩ := madeOf_of_alter h
  refine ⟨_, hmade, fun column hcolumn => ⟨kept_or_given, ?_⟩⟩
  rintro (hkept | hgiven)
  · rcases known_of_mem_keyColumns hmet hcolumn with hnamed | hadded
    · exact listed_columnsAfter_of_named hnamed hkept
    · obtain ⟨c, hc, rfl⟩ := List.mem_map.mp hadded
      apply Listed.append_left
      exact ⟨c.name, name_mem_given hcomes hc _, Text.sameName_refl _⟩
  · exact hgiven.append_left _

/-- A column that is dropped and added again has a foreign key, and the new key is named in another
case. -/
def chapters : Table where
  name := "chapters"
  columns := [{ name := "author", type := some .int, length := some (.size 10) }]
  droppedColumns := ["author"]
  alteredColumns := [{ name := "page", renameTo := some "leaf" }]
  primaryKey := some "ID"
  foreignKeys := [⟨"author", "users", "id", none, none⟩]

def chaptersColumns : List PhysicalColumn :=
  [⟨"id", "int(10)", false, "", none, ""⟩, ⟨"author", "text", true, "", none, ""⟩,
    ⟨"page", "int(10)", true, "", none, ""⟩]

theorem alter_keyColumns_of_chapters :
    let st : Statement := ⟨"ALTER TABLE chapters DROP COLUMN author, " ++
      "CHANGE COLUMN page leaf int(10), ADD author INT(10), ADD PRIMARY KEY(ID), " ++
      "ADD FOREIGN KEY (author) REFERENCES users(id);", []⟩
    alter chapters chaptersColumns = .ok st ∧
      ∃ clauses, MadeOf chapters chaptersColumns st clauses ∧ ∀ column ∈ keyColumns clauses,
        (Listed (columnsAfter chaptersColumns clauses) column ↔
          (∀ clause ∈ clauses, clause.removes column = false) ∨ Listed (given clauses) column) := by
  intro st
  have halter : alter chapters chaptersColumns = .ok st := by decide +kernel
  exact ⟨halter, alter_keyColumns halter⟩

/-- A foreign key is added on the column that the same statement drops. -/
theorem key_of_dropped_column :
    let k : ForeignKey := ⟨"author", "users", "id", none, none⟩
    let t : Table := { name := "notes", droppedColumns := ["author"], foreignKeys := [k] }
    let current : List PhysicalColumn :=
      [⟨"id", "int(10)", false, "PRI", none, ""⟩, ⟨"author", "int(10)", true, "", none, ""⟩]
    alter t current = .ok ⟨"ALTER TABLE notes DROP COLUMN author, " ++
        "ADD FOREIGN KEY (author) REFERENCES users(id);", []⟩ ∧
      ∃ clauses, alterClauses t current = .ok clauses ∧
        ∃ column ∈ keyColumns clauses, ¬ Listed (columnsAfter current clauses) column := by
  intro k t current
  refine ⟨by decide +kernel, [.drop "author", .add (.foreignKey k)], by decide +kernel, ?_⟩
  exact ⟨"author", by decide, by decide +kernel⟩

def Meet (current : List PhysicalColumn) (name other : String) : Prop :=
  ∃ p ∈ current, Text.sameName p.name name ∧ Text.sameName p.name other

instance (current : List PhysicalColumn) (name other : String) :
    Decidable (Meet current name other) :=
  inferInstanceAs (Decidable (∃ p ∈ current, _))

/-- Whether names that differ do so in more than case. -/
def SpelledOnce (names : List String) : Prop :=
  ∀ name ∈ names, ∀ other ∈ names, Text.sameName name other → name = other

instance (names : List String) : Decidable (SpelledOnce names) :=
  inferInstanceAs (Decidable (∀ name ∈ names, _))

section

variable {t : Table} {current : List PhysicalColumn} {changes : List ColumnChange}
  {ds : List ColumnDefinition} {added : Option String}

theorem meet_iff {name other : String} (h : PhysicalColumn.Named current name) :
    Meet current name other ↔ Text.sameName name other = true := by
  constructor
  · rintro ⟨p, -, hname, hother⟩
    rw [Text.sameName_comm] at hname
    exact Text.sameName_trans hname hother
  · intro hsame
    obtain ⟨p, hp, hname⟩ := h
    exact ⟨p, hp, hname, Text.sameName_trans hname hsame⟩

/-- The physical column that a change means is one of its name. -/
theorem sameName_changedName {c : Column} (h : PhysicalColumn.Named current c.name) :
    PhysicalColumn.Named current (changedName current c) ∧
      Text.sameName (changedName current c) c.name = true := by
  obtain ⟨info, hinfo⟩ := Option.isSome_iff_exists.mp (PhysicalColumn.isSome_find?.mpr h)
  obtain ⟨hmem, hsame⟩ := PhysicalColumn.sameName_of_find? hinfo
  have hname : changedName current c = info.name := by simp [changedName, hinfo]
  rw [hname]
  exact ⟨⟨info, hmem, Text.sameName_refl _⟩, hsame⟩

theorem sameName_changedNames {c d : Column} (hc : PhysicalColumn.Named current c.name)
    (hd : PhysicalColumn.Named current d.name) :
    Text.sameName (changedName current c) (changedName current d) =
      Text.sameName c.name d.name := by
  have hc := Text.sameName_iff.mp (sameName_changedName hc).2
  have hd := Text.sameName_iff.mp (sameName_changedName hd).2
  rw [Text.sameName, Text.sameName, hc, hd]

theorem pairwise_iff_spelledOnce {names : List String} (h : names.Nodup) :
    names.Pairwise (fun a b => ¬ Text.sameName a b) ↔ SpelledOnce names := by
  constructor
  · intro hpairwise name hname other hother hsame
    by_contra hne
    have hsymm : Std.Symm fun a b => ¬ Text.sameName a b = true := by
      constructor
      intro a b hab
      rwa [Text.sameName_comm]
    exact hpairwise.forall hname hother hne hsame
  · intro hspelled
    refine h.pairwise_of_forall_ne fun name hname other hother hne hsame => ?_
    exact hne (hspelled name hname other hother hsame)

theorem pairwise_drops (hmet : Alterable t current) :
    t.droppedColumns.Pairwise (fun a b => ¬ Meet current a b) ↔
      t.droppedColumns.Pairwise (fun a b => ¬ Text.sameName a b) := by
  refine List.Pairwise.iff_of_mem fun {a b} ha hb => not_congr ?_
  exact meet_iff (hmet.drops a ha).1

theorem pairwise_changes (hmet : Alterable t current) :
    (t.alteredColumns.map (changedName current)).Pairwise (fun a b => ¬ Meet current a b) ↔
      (t.alteredColumns.map (·.name)).Pairwise (fun a b => ¬ Text.sameName a b) := by
  rw [List.pairwise_map, List.pairwise_map]
  refine List.Pairwise.iff_of_mem fun {c d} hc hd => not_congr ?_
  have hc := (hmet.changes c hc).1
  have hd := (hmet.changes d hd).1
  rw [meet_iff (sameName_changedName hc).1, sameName_changedNames hc hd]

/-- A drop and a change are refused together if they are of one name. -/
theorem not_meet_change (hmet : Alterable t current) {name other : String}
    (hname : name ∈ t.droppedColumns)
    (hother : other ∈ t.alteredColumns.map (changedName current)) :
    ¬ Meet current name other := by
  obtain ⟨c, hc, rfl⟩ := List.mem_map.mp hother
  obtain ⟨hnamed, happart⟩ := hmet.drops name hname
  rw [meet_iff hnamed]
  intro hsame
  have hchanged := Text.sameName_trans hsame (sameName_changedName (hmet.changes c hc).1).2
  rw [Text.sameName_comm] at hchanged
  exact happart c hc hchanged

theorem pairwise_targets (hmet : Alterable t current) (hdiffer : t.RequestsDiffer)
    (hcomes : ComesTo t current changes ds) :
    (targets (clausesOf t changes ds added)).Pairwise (fun a b => ¬ Meet current a b) ↔
      SpelledOnce t.droppedColumns ∧ SpelledOnce (t.alteredColumns.map (·.name)) := by
  rw [targets_clausesOf hcomes, List.pairwise_append, pairwise_drops hmet, pairwise_changes hmet,
    pairwise_iff_spelledOnce hdiffer.drops, pairwise_iff_spelledOnce hdiffer.changes]
  constructor
  · rintro ⟨hdrops, hchanges, -⟩
    exact ⟨hdrops, hchanges⟩
  · rintro ⟨hdrops, hchanges⟩
    exact ⟨hdrops, hchanges, fun name hname other hother => not_meet_change hmet hname hother⟩

theorem drop_mem_clausesOf {column : String}
    (h : AlterClause.drop column ∈ clausesOf t changes ds added) : column ∈ t.droppedColumns := by
  simpa [clausesOf] using h

theorem change_mem_clausesOf (hcomes : ComesTo t current changes ds) {c : ColumnChange}
    (h : AlterClause.change c ∈ clausesOf t changes ds added) :
    c.oldName ∈ t.alteredColumns.map (changedName current) := by
  rw [← ChangeOf.oldNames hcomes.changes]
  refine List.mem_map_of_mem ?_
  simpa [clausesOf] using h

end

/-- In a table that is described call by call, a drop and a change are never of one physical column,
and all drops and changes are of different ones exactly if neither the drops nor the changes spell
one name in two ways. -/
theorem alter_targets (name : String) (calls : List Table.Call) {current : List PhysicalColumn}
    {st : Statement} (h : alter (.described name calls) current = .ok st) :
    ∃ clauses, MadeOf (.described name calls) current st clauses ∧
      (∀ column c, .drop column ∈ clauses → .change c ∈ clauses →
        ¬ Meet current column c.oldName) ∧
      ((targets clauses).Pairwise (fun a b => ¬ Meet current a b) ↔
        SpelledOnce (Table.described name calls).droppedColumns ∧
          SpelledOnce ((Table.described name calls).alteredColumns.map (·.name))) := by
  obtain ⟨hmet, changes, ds, hcomes, hmade⟩ := madeOf_of_alter h
  refine ⟨_, hmade, ?_, pairwise_targets hmet (Table.requestsDiffer_described name calls) hcomes⟩
  intro column c hdrop hchange
  exact not_meet_change hmet (drop_mem_clausesOf hdrop) (change_mem_clausesOf hcomes hchange)

/-- A drop that a change of the same column takes back, and a drop in another case than the
column. -/
theorem alter_targets_of_members :
    let calls : List Table.Call := [.dropColumn "STATUS", .dropColumn "Legacy",
      .alterColumn { name := "STATUS", renameTo := some "state" }]
    let current : List PhysicalColumn :=
      [⟨"legacy", "text", true, "", none, ""⟩, ⟨"status", "int(1)", true, "", none, ""⟩]
    let st : Statement :=
      ⟨"ALTER TABLE members DROP COLUMN Legacy, CHANGE COLUMN status state int(1);", []⟩
    alter (.described "members" calls) current = .ok st ∧
      ∃ clauses, MadeOf (.described "members" calls) current st clauses ∧
        (targets clauses).Pairwise fun a b => ¬ Meet current a b := by
  intro calls current st
  have halter : alter (.described "members" calls) current = .ok st := by decide +kernel
  obtain ⟨clauses, hmade, -, hpairwise⟩ := alter_targets "members" calls halter
  refine ⟨halter, clauses, hmade, hpairwise.mpr ?_⟩
  exact ⟨by decide +kernel, by decide +kernel⟩

/-- One physical column is dropped twice. -/
theorem two_drops_meet :
    let t := Table.described "users" [.dropColumn "legacy", .dropColumn "LEGACY"]
    let current : List PhysicalColumn :=
      [⟨"id", "int(10)", false, "PRI", none, ""⟩, ⟨"legacy", "text", true, "", none, ""⟩]
    (current.map (·.name)).Pairwise (fun a b => ¬ Text.sameName a b) ∧
      alter t current =
        .ok ⟨"ALTER TABLE users DROP COLUMN legacy, DROP COLUMN LEGACY;", []⟩ ∧
      ∃ clauses, alterClauses t current = .ok clauses ∧
        ¬ (targets clauses).Pairwise fun a b => ¬ Meet current a b := by
  intro t current
  refine ⟨by decide +kernel, by decide +kernel, [.drop "legacy", .drop "LEGACY"], ?_⟩
  exact ⟨by decide +kernel, by decide +kernel⟩

end BoundSql.Schema
