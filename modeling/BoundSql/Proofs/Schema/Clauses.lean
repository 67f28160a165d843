import BoundSql.Proofs.Schema.Alteration

/-! # The clauses of an alteration

An alteration that succeeds is one statement, made of clauses: one for each request. What the
clauses say about the columns of the table is read off them here: which columns they drop and
change, and what they add.
-/

namespace BoundSql

theorem PhysicalColumn.sameName_of_find? {current : List PhysicalColumn} {name : String}
    {info : PhysicalColumn} (h : find? current name = some info) :
    info ∈ current ∧ Text.sameName info.name name = true := by
  unfold find? at h
  exact ⟨List.mem_of_find?_eq_some h, by simpa using List.find?_some h⟩

namespace Schema

def AlterClause.addition? : AlterClause → Option Clause
  | add clause => some clause
  | _ => none

def additions (clauses : List AlterClause) : List Clause :=
  clauses.filterMap AlterClause.addition?

/-- The name under which a clause drops or changes a column. -/
def AlterClause.target? : AlterClause → Option String
  | drop column => some column
  | change c => some c.oldName
  | add _ => none

def targets (clauses : List AlterClause) : List String :=
  clauses.filterMap AlterClause.target?

/-- The name of the physical column that a request for a change means. -/
def changedName (current : List PhysicalColumn) (c : Column) : String :=
  ((PhysicalColumn.find? current c.name).map (·.name)).getD c.name

structure MadeOf (t : Table) (current : List PhysicalColumn) (st : Statement)
    (clauses : List AlterClause) : Prop where
  made : alterClauses t current = .ok clauses
  text : st = ⟨"ALTER TABLE " ++ t.name ++ " " ++
    ", ".intercalate (clauses.map AlterClause.sql) ++ ";", []⟩

section

variable {t : Table} {current : List PhysicalColumn} {st : Statement} {c : Column}
  {d : ColumnChange}

theorem ChangeOf.eq_changeOf (h : ChangeOf current c d) :
    ∃ info type, PhysicalColumn.find? current c.name = some info ∧ d = changeOf c info type := by
  obtain ⟨info, hinfo, hd⟩ := h
  rw [changeFrom_eq] at hd
  obtain ⟨type, -, rfl⟩ := map_eq_ok.mp hd
  exact ⟨info, type, hinfo, rfl⟩

theorem ChangeOf.oldName (h : ChangeOf current c d) : d.oldName = changedName current c := by
  obtain ⟨info, type, hinfo, rfl⟩ := h.eq_changeOf
  simp [changedName, hinfo, changeOf]

theorem ChangeOf.autoIncrement (h : ChangeOf current c d) :
    d.autoIncrement = true ↔ c.autoIncrement = .on := by
  obtain ⟨info, type, -, rfl⟩ := h.eq_changeOf
  simp [changeOf]

theorem ChangeOf.oldNames {cs : List Column} {changes : List ColumnChange}
    (h : List.Forall₂ (ChangeOf current) cs changes) :
    changes.map (·.oldName) = cs.map (changedName current) :=
  (map_eq_of_forall₂ (fun _ _ hd => hd.oldName.symm) h).symm

theorem name_of_define {c : Column} {key : Option String} {d : ColumnDefinition}
    (h : define c key = .ok d) : d.name = c.name := by
  obtain ⟨type, -, hd⟩ := bind_eq_ok.mp h
  obtain rfl := Except.ok.inj hd
  rfl

/-- What holds of every definition, whatever the key, holds of columns that are defined in turn. -/
theorem DefinedInTurn.each {R : Column → ColumnDefinition → Prop}
    (hR : ∀ {c key d}, define c key = .ok d → R c d) {cs : List Column} {key : Option String}
    {ds : List ColumnDefinition} (h : DefinedInTurn cs key ds) : List.Forall₂ R cs ds := by
  induction cs generalizing key ds with
  | nil =>
    cases h
    exact .nil
  | cons c cs ih =>
    obtain ⟨d, rest, hd, hrest, rfl⟩ := definedInTurn_cons.mp h
    exact .cons (hR hd) (ih hrest)

theorem DefinedInTurn.names {cs : List Column} {key : Option String} {ds : List ColumnDefinition}
    (h : DefinedInTurn cs key ds) : ds.map (·.name) = cs.map (·.name) :=
  (map_eq_of_forall₂ (fun _ _ hname => hname.symm) (h.each name_of_define)).symm

/-- An alteration succeeds only if all its conditions are met, and then with one clause for each
request. -/
theorem madeOf_of_alter (h : alter t current = .ok st) :
    Alterable t current ∧ ∃ changes ds, ComesTo t current changes ds ∧
      MadeOf t current st (clausesOf t changes ds (newKey t current)) := by
  have hsettled := settled_alter t current
  refine ⟨alterProblems_eq_nil.mp (hsettled.exists_eq_ok_iff.mp ⟨st, h⟩), ?_⟩
  obtain ⟨clauses, hclauses, h⟩ := bind_eq_ok.mp h
  obtain ⟨changes, ds, hcomes, rfl⟩ := settled_alterClauses.of_eq_ok hclauses
  refine ⟨changes, ds, hcomes, hclauses, ?_⟩
  split at h
  · cases h
  · exact (Except.ok.inj h).symm

theorem alter_of_alterClauses {clauses : List AlterClause}
    (h : alterClauses t current = .ok clauses) (hne : clauses ≠ []) :
    ∃ st, alter t current = .ok st ∧ MadeOf t current st clauses := by
  refine ⟨_, ?_, h, rfl⟩
  rw [alter, h]
  cases clauses with
  | nil => exact absurd rfl hne
  | cons => rfl

theorem additions_clausesOf (t : Table) (changes : List ColumnChange) (ds : List ColumnDefinition)
    (added : Option String) : additions (clausesOf t changes ds added) =
      ds.map .column ++ keyClause added ++ t.foreignKeys.map .foreignKey := by
  simp [additions, clausesOf, AlterClause.addition?, List.filterMap_map, Function.comp_def]

theorem targets_clausesOf {changes : List ColumnChange} {ds : List ColumnDefinition}
    (h : ComesTo t current changes ds) (added : Option String) :
    targets (clausesOf t changes ds added) =
      t.droppedColumns ++ t.alteredColumns.map (changedName current) := by
  simp [targets, clausesOf, AlterClause.target?, List.filterMap_map, Function.comp_def,
    ← ChangeOf.oldNames h.changes]

end

end Schema

end BoundSql
