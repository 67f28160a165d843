import BoundSql.Proofs.Schema.Creation

/-! # Additions to a table without a key

The clauses that create a table are those that add all of it to another, each behind ADD. A creation
looks its keys up before it defines a column, and an alteration afterwards and among the physical
columns as well; a table that can be created finds them among its own columns either way.
-/

namespace BoundSql.Schema

/-- The texts of the clauses of a table: one for each column, one for the key if there is any, one
for each foreign key. -/
def tableTexts (t : Table) (ds : List ColumnDefinition) : List String :=
  ds.map ColumnDefinition.sql ++
    (chosenKey t).toList.map (fun key => "PRIMARY KEY(" ++ key ++ ")") ++
    t.foreignKeys.map Clause.foreignKeySql

section

variable {t : Table} {current : List PhysicalColumn} {ds ds' : List ColumnDefinition}

theorem map_sql_tableClauses : (tableClauses t ds).map Clause.sql = tableTexts t ds := by
  cases hkey : chosenKey t <;>
    simp [tableClauses, tableTexts, hkey, keyClause, Clause.sql, Function.comp_def]

theorem existingKey_eq_none : existingKey current = none ↔ ∀ p ∈ current, p.key ≠ "PRI" := by
  simp [existingKey, PhysicalColumn.isPrimaryKey]

theorem DefinedInTurn.unique {cs : List Column} {key : Option String}
    (h : DefinedInTurn cs key ds) (h' : DefinedInTurn cs key ds') : ds = ds' := by
  refine List.right_unique_forall₂' ?_ h h'
  intro ci d d' hd hd'
  exact Except.ok.inj (hd.symm.trans hd')

theorem Creatable.alterable (h : Creatable t) (hdrops : t.droppedColumns = [])
    (hchanges : t.alteredColumns = []) (hcurrent : current ≠ [])
    (hkeyless : existingKey current = none) : Alterable t current where
  named := h.named
  listed := hcurrent
  drops := by simp [hdrops]
  changes := by simp [hchanges]
  key := by simp [hkeyless]
  additions := h.typed
  newKey := by
    rw [newKey, hkeyless]
    intro name hname
    exact .inr (chosenKey_mem h.key name hname)
  foreignKeys := fun k hk => .inr (h.foreignKeys k hk)
  requested := .inr (.inr (.inl h.columns))

theorem clausesOf_of_keyless (hdrops : t.droppedColumns = [])
    (hkeyless : existingKey current = none) :
    clausesOf t [] ds (newKey t current) = (tableClauses t ds).map .add := by
  simp only [clausesOf, newKey, hkeyless, hdrops, tableClauses]
  rfl

theorem creation_sql_plain : (creation t .plain (tableClauses t ds)).sql =
    "CREATE TABLE " ++ t.name ++ " (" ++ ", ".intercalate (tableTexts t ds) ++ ") ENGINE=" ++
      t.engine ++ " DEFAULT CHARSET=" ++ t.charset ++ ";" := by
  have hsql : (creation t .plain (tableClauses t ds)).sql =
      "CREATE TABLE " ++ "" ++ t.name ++ " (" ++
        ", ".intercalate ((tableClauses t ds).map Clause.sql) ++ ") ENGINE=" ++ t.engine ++
        " DEFAULT CHARSET=" ++ t.charset ++ ";" := rfl
  rw [hsql, map_sql_tableClauses, String.append_empty]

end

/-- A table without drops and changes that can be created can also be added, as a whole, to physical
columns without a key. The two statements are made of the same clauses in the same order. -/
theorem alter_of_create {t u : Table} {sts : List Statement} {current : List PhysicalColumn}
    (hdrops : t.droppedColumns = []) (hchanges : t.alteredColumns = [])
    (h : create t .plain = .ok (sts, u)) (hcurrent : current ≠ [])
    (hkeyless : ∀ p ∈ current, p.key ≠ "PRI") :
    ∃ ds, DefinedInTurn t.columns (declaredKey t) ds ∧
      sts = [⟨"CREATE TABLE " ++ t.name ++ " (" ++ ", ".intercalate (tableTexts t ds) ++
        ") ENGINE=" ++ t.engine ++ " DEFAULT CHARSET=" ++ t.charset ++ ";", []⟩] ∧
      alter t current = .ok ⟨"ALTER TABLE " ++ t.name ++ " " ++
        ", ".intercalate ((tableTexts t ds).map ("ADD " ++ ·)) ++ ";", []⟩ := by
  rw [← existingKey_eq_none] at hkeyless
  obtain ⟨hmet, ⟨ds, hcreates⟩, -⟩ := creates_of_create h
  have halterable := hmet.alterable hdrops hchanges hcurrent hkeyless
  obtain ⟨st, hst⟩ := (settled_alter t current).exists_eq_ok_iff.mpr
    (alterProblems_eq_nil.mpr halterable)
  obtain ⟨-, changes, ds', hcomes, hmade⟩ := madeOf_of_alter hst
  obtain rfl : changes = [] := by
    have hlength := hcomes.changes.length_eq
    simpa [hchanges] using hlength.symm
  -- Both start from the key that the table declares, so the columns are defined alike.
  obtain rfl : ds = ds' := by
    have hcolumns := hcomes.columns
    rw [keyAtFirst, hkeyless, Option.none_or] at hcolumns
    exact hcreates.columns.unique hcolumns
  refine ⟨ds, hcreates.columns, ?_, ?_⟩
  · rw [hcreates.statements, creation_sql_plain]
    rfl
  · rw [hst, hmade.text, clausesOf_of_keyless hdrops hkeyless, ← map_sql_tableClauses,
      List.map_map, List.map_map]
    rfl

/-- A key that only a counting column implies, and a foreign key on another column. -/
theorem alter_of_create_of_scores :
    let t : Table := {
      name := "scores"
      columns := [
        { name := "player", type := some .int, length := some (.size 10), comment := .set "who" },
        { name := "id", type := some .bigInt, length := some (.size 20), autoIncrement := .on }]
      foreignKeys := [⟨"player", "players", "id", none, some .cascade⟩] }
    let current : List PhysicalColumn := [⟨"note", "text", true, "MUL", none, ""⟩]
    let sts : List Statement := [⟨"CREATE TABLE scores (player INT(10) COMMENT \"who\", " ++
      "id BIGINT(20) AUTO_INCREMENT, PRIMARY KEY(id), FOREIGN KEY (player) REFERENCES " ++
      "players(id) ON DELETE CASCADE) ENGINE=InnoDB DEFAULT CHARSET=utf8;", []⟩]
    t.droppedColumns = [] ∧ t.alteredColumns = [] ∧
      create t .plain = .ok (sts, { t with primaryKey := some "id" }) ∧ current ≠ [] ∧
      (∀ p ∈ current, p.key ≠ "PRI") ∧
      ∃ texts : List String,
        sts = [⟨"CREATE TABLE " ++ t.name ++ " (" ++ ", ".intercalate texts ++ ") ENGINE=" ++
          t.engine ++ " DEFAULT CHARSET=" ++ t.charset ++ ";", []⟩] ∧
        alter t current = .ok ⟨"ALTER TABLE " ++ t.name ++ " " ++
          ", ".intercalate (texts.map ("ADD " ++ ·)) ++ ";", []⟩ := by
  intro t current sts
  have hcreate : create t .plain = .ok (sts, { t with primaryKey := some "id" }) := by
    decide +kernel
  have hcurrent : current ≠ [] := List.cons_ne_nil _ _
  have hkeyless : ∀ p ∈ current, p.key ≠ "PRI" := by decide
  obtain ⟨ds, -, hsts, halter⟩ := alter_of_create rfl rfl hcreate hcurrent hkeyless
  exact ⟨rfl, rfl, hcreate, hcurrent, hkeyless, tableTexts t ds, hsts, halter⟩

end BoundSql.Schema
