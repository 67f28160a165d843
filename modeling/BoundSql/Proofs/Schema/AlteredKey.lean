import BoundSql.Proofs.Schema.Clauses
import BoundSql.Proofs.Table.Call

/-! # The key of an altered table

A table keeps the primary key that it has, and only a table without one is given a key. Either way
the key is settled by the whole table and its physical columns, whatever the order in which the
columns are added, and an added column counts up exactly if it is the key and not marked otherwise.
A change counts up whenever it is marked so, whatever the key is: an alteration that changes a
marked column and adds the key, or changes two marked columns, has more than one that counts up.
-/

namespace BoundSql.Schema

def keyAfter (t : Table) (current : List PhysicalColumn) : Option String :=
  (existingKey current).or (chosenKey t)

structure KeepsKey (t : Table) (current : List PhysicalColumn) (clauses : List AlterClause) :
    Prop where
  /-- A table without a key is given the chosen one, once; no other is. -/
  added : (additions clauses).filterMap Clause.key? = (newKey t current).toList
  declared : ∀ existing ∈ existingKey current, ∀ declared ∈ declaredKey t,
    Text.sameName existing declared
  known : ∀ name ∈ newKey t current, Known t current name
  /-- An added column counts up exactly if it is the key and is not marked otherwise. -/
  defined : List.Forall₂ (DefinedUnder (keyAfter t current)) t.columns
    ((additions clauses).filterMap Clause.definition?)

def Clause.countsUp : Clause → Bool
  | column d => d.autoIncrement
  | _ => false

def AlterClause.countsUp : AlterClause → Bool
  | drop _ => false
  | change c => c.autoIncrement
  | add clause => clause.countsUp

section

variable {t : Table} {current : List PhysicalColumn} {st : Statement}
  {changes : List ColumnChange} {ds : List ColumnDefinition}

theorem settledKey_keyAtFirst :
    settledKey t.columns (keyAtFirst t current) = keyAfter t current := by
  unfold keyAtFirst keyAfter
  cases existingKey current with
  | none => exact settledKey_declaredKey t
  | some existing => rfl

/-- As long as the names differ, columns that are defined in turn, each under the key so far, are
defined as they are under the key in the end. -/
theorem DefinedInTurn.under {cs : List Column} {key : Option String}
    (hcs : (cs.map (·.name)).Nodup) (h : DefinedInTurn cs key ds) :
    List.Forall₂ (DefinedUnder (settledKey cs key)) cs ds := by
  induction cs generalizing key ds with
  | nil =>
    cases h
    exact .nil
  | cons c cs ih =>
    obtain ⟨hc, hcs⟩ := List.nodup_cons.mp hcs
    obtain ⟨d, rest, hd, hrest, rfl⟩ := definedInTurn_cons.mp h
    refine .cons (definedUnder_of_define ?_ ((define_settledKey hc key).trans hd)) ?_
    · intro hnone
      exact autoIncrement_ne_on hnone List.mem_cons_self
    · rw [settledKey_cons]
      exact ih hcs hrest

theorem keepsKey_of_comesTo (ht : t.NamesDiffer) (hmet : Alterable t current)
    (h : ComesTo t current changes ds) :
    KeepsKey t current (clausesOf t changes ds (newKey t current)) where
  added := by rw [additions_clausesOf, filterMap_key?]
  declared := hmet.key
  known := hmet.newKey
  defined := by
    rw [additions_clausesOf, filterMap_definition?, ← settledKey_keyAtFirst]
    exact h.columns.under ht

theorem countP_eq_of_forall₂ {α β : Type} {R : α → β → Prop} {p : α → Bool} {q : β → Bool}
    (hpq : ∀ a b, R a b → p a = q b) {as : List α} {bs : List β} (h : List.Forall₂ R as bs) :
    as.countP p = bs.countP q := by
  have hmap := congrArg (List.countP id) (map_eq_of_forall₂ hpq h)
  rwa [List.countP_map, List.countP_map] at hmap

theorem countP_additions (ds : List ColumnDefinition) (key : Option String)
    (ks : List ForeignKey) :
    (ds.map Clause.column ++ keyClause key ++ ks.map Clause.foreignKey).countP Clause.countsUp =
      ds.countP (·.autoIncrement) := by
  have hkey : (keyClause key).countP Clause.countsUp = 0 := by
    cases key <;> rfl
  have hforeign : (ks.map Clause.foreignKey).countP Clause.countsUp = 0 := by
    simp [List.countP_map, Function.comp_def, Clause.countsUp]
  rw [List.countP_append, List.countP_append, hkey, hforeign, List.countP_map]
  rfl

theorem countP_clausesOf (h : ComesTo t current changes ds) :
    (clausesOf t changes ds (newKey t current)).countP AlterClause.countsUp =
      t.alteredColumns.countP (·.autoIncrement = .on) + ds.countP (·.autoIncrement) := by
  have hdrops : (t.droppedColumns.map AlterClause.drop).countP AlterClause.countsUp = 0 := by
    simp [List.countP_map, Function.comp_def, AlterClause.countsUp]
  have hchanges : t.alteredColumns.countP (·.autoIncrement = .on) =
      (changes.map AlterClause.change).countP AlterClause.countsUp := by
    rw [List.countP_map]
    refine countP_eq_of_forall₂ (fun c d hd => ?_) h.changes
    simp [AlterClause.countsUp, ← hd.autoIncrement]
  have hadditions : ∀ clauses : List Clause,
      (clauses.map AlterClause.add).countP AlterClause.countsUp =
        clauses.countP Clause.countsUp := fun _ => List.countP_map
  rw [clausesOf, List.countP_append, List.countP_append, hdrops, Nat.zero_add, hchanges,
    hadditions, countP_additions]

theorem countP_le_one {key : Option String} {cs : List Column} (hcs : (cs.map (·.name)).Nodup)
    (h : List.Forall₂ (DefinedUnder key) cs ds) : ds.countP (·.autoIncrement) ≤ 1 := by
  have hlength := (DefinedUnder.counting_sublist hcs h).length_le
  rw [List.length_map, ← List.countP_eq_length_filter] at hlength
  have hkey : key.toList.length ≤ 1 := by cases key <;> simp
  exact hlength.trans hkey

end

/-- A table whose added columns have different names keeps its key when it is altered; without one
it is given the key that its columns and their marks choose, if there is any. -/
theorem alter_keepsKey {t : Table} {current : List PhysicalColumn} {st : Statement}
    (ht : t.NamesDiffer) (h : alter t current = .ok st) :
    ∃ clauses, MadeOf t current st clauses ∧ KeepsKey t current clauses := by
  obtain ⟨hmet, changes, ds, hcomes, hmade⟩ := madeOf_of_alter h
  exact ⟨_, hmade, keepsKey_of_comesTo ht hmet hcomes⟩

/-- Three columns want to be the key: the one that the table names, which is also marked to count
up, and two that are marked as the key. The last of these is chosen. -/
def invoices : Table where
  name := "invoices"
  columns := [
    { name := "id", type := some .bigInt, length := some (.size 20), autoIncrement := .on },
    { name := "code", type := some .int, length := some (.size 10), primaryKey := .on },
    { name := "serial", type := some .int, length := some (.size 10), primaryKey := .on }]
  primaryKey := some "id"

def invoicesColumns : List PhysicalColumn :=
  [⟨"total", "int(10)", true, "", none, ""⟩]

theorem alter_keepsKey_of_invoices :
    let st : Statement := ⟨"ALTER TABLE invoices ADD id BIGINT(20), ADD code INT(10), " ++
      "ADD serial INT(10) AUTO_INCREMENT, ADD PRIMARY KEY(serial);", []⟩
    invoices.NamesDiffer ∧ alter invoices invoicesColumns = .ok st ∧
      ∃ clauses, MadeOf invoices invoicesColumns st clauses ∧
        KeepsKey invoices invoicesColumns clauses := by
  intro st
  have hnames : invoices.NamesDiffer := by decide
  have halter : alter invoices invoicesColumns = .ok st := by decide +kernel
  exact ⟨hnames, halter, alter_keepsKey hnames halter⟩

/-- Of the columns that an alteration adds at most one counts up, the key; beside it every change
counts up whose column is marked so. -/
theorem alter_counters (name : String) (calls : List Table.Call) {current : List PhysicalColumn}
    {st : Statement} (h : alter (.described name calls) current = .ok st) :
    ∃ clauses, MadeOf (.described name calls) current st clauses ∧
      (additions clauses).countP Clause.countsUp ≤ 1 ∧
      clauses.countP AlterClause.countsUp =
        (Table.described name calls).alteredColumns.countP (·.autoIncrement = .on) +
        (Table.described name calls).columns.countP fun c =>
          keyAfter (.described name calls) current = some c.name ∧ c.autoIncrement ≠ .off := by
  have ht := (Table.requestsDiffer_described name calls).columns
  obtain ⟨hmet, changes, ds, hcomes, hmade⟩ := madeOf_of_alter h
  have hunder := settledKey_keyAtFirst ▸ hcomes.columns.under ht
  refine ⟨_, hmade, ?_, ?_⟩
  · rw [additions_clausesOf, countP_additions]
    exact countP_le_one ht hunder
  · rw [countP_clausesOf hcomes, Nat.add_left_cancel_iff]
    refine (countP_eq_of_forall₂ (fun c d hd => ?_) hunder).symm
    simp only [← hd.autoIncrement, Bool.decide_eq_true]

theorem alter_counters_of_minutes :
    let calls : List Table.Call :=
      [.alterColumn { name := "page", autoIncrement := .on },
        .addColumn { name := "id", type := some .int, length := some (.size 10) },
        .primaryKey "id"]
    let current : List PhysicalColumn := [⟨"Page", "int(10)", false, "", none, ""⟩]
    let st : Statement := ⟨"ALTER TABLE minutes CHANGE COLUMN Page page int(10) AUTO_INCREMENT, " ++
      "ADD id INT(10) AUTO_INCREMENT, ADD PRIMARY KEY(id);", []⟩
    alter (.described "minutes" calls) current = .ok st ∧
      ∃ clauses, MadeOf (.described "minutes" calls) current st clauses ∧
        (additions clauses).countP Clause.countsUp ≤ 1 ∧
        clauses.countP AlterClause.countsUp = 1 + 1 := by
  intro calls current st
  have halter : alter (.described "minutes" calls) current = .ok st := by decide +kernel
  exact ⟨halter, alter_counters "minutes" calls halter⟩

/-- Two changes of one table count up. -/
theorem two_changes_count_up :
    let t := Table.described "pages" [.alterColumn { name := "id", autoIncrement := .on },
      .alterColumn { name := "page", autoIncrement := .on }]
    let current : List PhysicalColumn :=
      [⟨"id", "int(10)", false, "PRI", none, ""⟩, ⟨"page", "int(10)", true, "", none, ""⟩]
    alter t current = .ok ⟨"ALTER TABLE pages CHANGE COLUMN id id int(10) AUTO_INCREMENT, " ++
        "CHANGE COLUMN page page int(10) AUTO_INCREMENT;", []⟩ ∧
      ∃ clauses, alterClauses t current = .ok clauses ∧
        ¬ clauses.countP AlterClause.countsUp ≤ 1 := by
  intro t current
  let counting (name : String) : AlterClause :=
    .change ⟨name, name, "int(10)", false, .unset, true, .unset, .unset, none, .unset⟩
  exact ⟨by decide +kernel, [counting "id", counting "page"], by decide +kernel, by decide⟩

end BoundSql.Schema
