import BoundSql.Proofs.Problems
import BoundSql.Proofs.Schema.Key
import BoundSql.Proofs.Schema.Literal

/-! # Acceptance of alterations

An alteration is looked through stage by stage: the drops, the changes, the key, the columns to add,
the names that keys refer to. What each stage may find wrong depends on the table and its physical
columns alone, so all problems can be listed first. Without any, the statement has one clause for
each request, in the order of the requests.
-/

namespace BoundSql

/-- Whether a physical column has a name, in any case. -/
def PhysicalColumn.Named (current : List PhysicalColumn) (name : String) : Prop :=
  ∃ p ∈ current, Text.sameName p.name name

instance (current : List PhysicalColumn) (name : String) :
    Decidable (PhysicalColumn.Named current name) :=
  inferInstanceAs (Decidable (∃ p ∈ current, _))

theorem PhysicalColumn.isSome_find? {current : List PhysicalColumn} {name : String} :
    (find? current name).isSome ↔ Named current name :=
  List.find?_isSome

def Column.Typed (c : Column) : Prop :=
  ∃ type, c.type = some type ∧ (type.takesLength → c.length ≠ none)

namespace Schema

section

variable (t : Table) (current : List PhysicalColumn)

/-- The key that an alteration adds: none to a table that has one. -/
def newKey : Option String :=
  match existingKey current with
  | some _ => none
  | none => chosenKey t

/-- Whether a name is that of a physical column, in any case, or exactly that of a column to add. -/
def Known (name : String) : Prop :=
  PhysicalColumn.Named current name ∨ name ∈ t.columns.map (·.name)

instance (name : String) : Decidable (Known t current name) :=
  inferInstanceAs (Decidable (_ ∨ _))

def Requested : Prop :=
  t.droppedColumns ≠ [] ∨ t.alteredColumns ≠ [] ∨ t.columns ≠ [] ∨ newKey t current ≠ none ∨
    t.foreignKeys ≠ []

instance : Decidable (Requested t current) :=
  inferInstanceAs (Decidable (_ ∨ _))

def typeProblems (c : Column) : List Error :=
  match c.type with
  | none => [.incomplete (.columnType c.name)]
  | some type => problemIf (type.takesLength ∧ c.length = none) (.missingLength c.name type.sql)

def dropProblems (name : String) : List Error :=
  problemIf (∃ c ∈ t.alteredColumns, Text.sameName c.name name) (.conflictingChange name) ++
    problemIf (¬ PhysicalColumn.Named current name) (.unknownColumn t.name name)

/-- A change without a type keeps the type that the column has. -/
def changeProblems (c : Column) : List Error :=
  problemIf (¬ PhysicalColumn.Named current c.name) (.unknownColumn t.name c.name) ++
    if c.type.isSome then typeProblems c else []

/-- A table with a key may only ask for the same. -/
def keyProblems : List Error :=
  match existingKey current, declaredKey t with
  | some e, some d => problemIf (¬ Text.sameName e d) (.primaryKeyExists t.name e d)
  | _, _ => []

def nameProblems (name : String) : List Error :=
  problemIf (¬ Known t current name) (.unknownColumn t.name name)

def earlyProblems : List Error :=
  problemIf (Text.blank t.name) (.incomplete .tableName) ++
    (problemIf (current = []) (.emptyTable t.name) ++
      t.droppedColumns.flatMap (dropProblems t current))

def requestProblems : List Error :=
  earlyProblems t current ++
  (t.alteredColumns.flatMap (changeProblems t current) ++
  (keyProblems t current ++
  (t.columns.flatMap typeProblems ++
  ((newKey t current).toList.flatMap (nameProblems t current) ++
  (t.foreignKeys.map (·.column)).flatMap (nameProblems t current)))))

/-- Asking for nothing is looked at last. -/
def alterProblems : List Error :=
  requestProblems t current ++
    problemIf (¬ Requested t current) (.incomplete (.changes t.name))

structure Alterable : Prop where
  named : ¬ Text.blank t.name
  listed : current ≠ []
  drops : ∀ name ∈ t.droppedColumns, PhysicalColumn.Named current name ∧
    ∀ c ∈ t.alteredColumns, ¬ Text.sameName c.name name
  changes : ∀ c ∈ t.alteredColumns, PhysicalColumn.Named current c.name ∧
    (c.type ≠ none → c.Typed)
  key : ∀ existing ∈ existingKey current, ∀ declared ∈ declaredKey t,
    Text.sameName existing declared
  additions : ∀ c ∈ t.columns, c.Typed
  newKey : ∀ name ∈ newKey t current, Known t current name
  foreignKeys : ∀ k ∈ t.foreignKeys, Known t current k.column
  requested : Requested t current

end

section

variable {t : Table} {current : List PhysicalColumn}

theorem typeProblems_eq_nil {c : Column} : typeProblems c = [] ↔ c.Typed := by
  rw [typeProblems, Column.Typed]
  cases c.type <;> simp

theorem dropProblems_eq_nil {name : String} :
    dropProblems t current name = [] ↔ PhysicalColumn.Named current name ∧
      ∀ c ∈ t.alteredColumns, ¬ Text.sameName c.name name := by
  simp [dropProblems, and_comm]

theorem changeProblems_eq_nil {c : Column} :
    changeProblems t current c = [] ↔
      PhysicalColumn.Named current c.name ∧ (c.type ≠ none → c.Typed) := by
  rw [changeProblems, List.append_eq_nil_iff, problemIf_eq_nil, not_not, ← typeProblems_eq_nil]
  cases c.type <;> simp

theorem keyProblems_eq_nil :
    keyProblems t current = [] ↔ ∀ existing ∈ existingKey current, ∀ declared ∈ declaredKey t,
      Text.sameName existing declared := by
  rw [keyProblems]
  cases existingKey current <;> cases declaredKey t <;> simp

theorem alterProblems_eq_nil : alterProblems t current = [] ↔ Alterable t current := by
  simp only [alterProblems, requestProblems, earlyProblems, List.append_eq_nil_iff,
    List.flatMap_eq_nil_iff, problemIf_eq_nil, dropProblems_eq_nil, changeProblems_eq_nil,
    keyProblems_eq_nil, typeProblems_eq_nil, nameProblems, not_not, List.forall_mem_map,
    Option.mem_toList]
  constructor
  · rintro ⟨⟨⟨named, listed, drops⟩, changes, key, additions, newKey, foreignKeys⟩, requested⟩
    exact ⟨named, listed, drops, changes, key, additions, newKey, foreignKeys, requested⟩
  · rintro ⟨named, listed, drops, changes, key, additions, newKey, foreignKeys, requested⟩
    exact ⟨⟨⟨named, listed, drops⟩, changes, key, additions, newKey, foreignKeys⟩, requested⟩

theorem settled_requireName :
    Settled (fun _ => True) (problemIf (Text.blank t.name) (.incomplete .tableName))
      (requireName t) := by
  rw [requireName]
  exact .guard_last fun _ => .ok trivial

theorem settled_checkDrop (name : String) :
    Settled (fun _ => True) (dropProblems t current name) (checkDrop t current name) := by
  rw [dropProblems, checkDrop]
  simp only [List.any_eq_true, Option.isNone_iff_eq_none, ← Option.not_isSome_iff_eq_none,
    PhysicalColumn.isSome_find?]
  exact .guard fun _ => .guard_last fun _ => .ok trivial

theorem settled_checkDrops :
    Settled (fun _ => True) (earlyProblems t current) (checkDrops t current) := by
  have h : checkDrops t current = requireName t >>= fun _ =>
      if current = [] then .error (.emptyTable t.name)
      else t.droppedColumns.forM (checkDrop t current) := by
    cases current <;> rfl
  rw [h]
  exact settled_requireName.bind fun _ _ => .guard fun _ =>
    .forM fun name _ => settled_checkDrop name

theorem settled_typeText (c : Column) :
    Settled (fun _ => True) (typeProblems c) (typeText c) := by
  rw [typeProblems, typeText]
  cases c.type with
  | none => exact .error _ []
  | some type =>
    simp only [problemIf]
    cases type.takesLength with
    | false => exact .ok trivial
    | true =>
      cases c.length with
      | none => exact .error _ []
      | some length => exact .ok trivial

theorem settled_changedType (c : Column) (info : PhysicalColumn) :
    Settled (fun _ => True) (if c.type.isSome then typeProblems c else [])
      (changedType c info) := by
  rw [changedType]
  split
  · exact settled_typeText c
  · exact .ok trivial

def ChangeOf (current : List PhysicalColumn) (c : Column) (d : ColumnChange) : Prop :=
  ∃ info, PhysicalColumn.find? current c.name = some info ∧ changeFrom c info = .ok d

theorem settled_change (c : Column) :
    Settled (ChangeOf current c) (changeProblems t current c) (change t current c) := by
  rw [changeProblems, change]
  cases hfind : PhysicalColumn.find? current c.name with
  | none =>
    have hunnamed : ¬ PhysicalColumn.Named current c.name := by
      simp [← PhysicalColumn.isSome_find?, hfind]
    rw [problemIf, if_pos hunnamed]
    exact .error _ _
  | some info =>
    have hnamed : PhysicalColumn.Named current c.name := by
      simp [← PhysicalColumn.isSome_find?, hfind]
    have h := (settled_changedType c info).map (f := changeOf c info) (Q := fun _ => True)
      fun _ _ => trivial
    rw [← changeFrom_eq] at h
    rw [problemIf_eq_nil.mpr (not_not.mpr hnamed), List.nil_append]
    exact h.with_ok.mono fun d hd => ⟨info, hfind, hd.2⟩

/-- The key before the columns that are added: the one that the table has, else the one that it
asks for. -/
def keyAtFirst (t : Table) (current : List PhysicalColumn) : Option String :=
  (existingKey current).or (declaredKey t)

theorem settled_keyBefore :
    Settled (· = keyAtFirst t current) (keyProblems t current)
      (keyBefore t (existingKey current)) := by
  unfold keyAtFirst keyProblems keyBefore
  cases existingKey current with
  | none => exact .ok rfl
  | some existing =>
    cases declaredKey t with
    | none => exact .ok rfl
    | some declared =>
      simp only [← ite_not (Text.sameName existing declared = true)]
      exact .guard_last fun _ => .ok rfl

/-- Columns are defined in turn, each under the key that those before it leave. -/
def DefinedInTurn (cs : List Column) (key : Option String) (ds : List ColumnDefinition) : Prop :=
  List.Forall₂ (fun ci d => define ci.1 (settledKey (cs.take ci.2) key) = .ok d) cs.zipIdx ds

theorem definedInTurn_cons {c : Column} {cs : List Column} {key : Option String}
    {ds : List ColumnDefinition} :
    DefinedInTurn (c :: cs) key ds ↔
      ∃ d rest, define c key = .ok d ∧ DefinedInTurn cs (claimKey c key) rest ∧ ds = d :: rest := by
  have hkey : settledKey [] key = key := Option.or_none
  -- Behind `c`, the columns so far are one more, and the key so far is the one that `c` leaves.
  simp only [DefinedInTurn, List.zipIdx_cons, List.zipIdx_succ, List.forall₂_cons_left_iff,
    List.forall₂_map_left_iff, List.take_zero, hkey, List.take_succ_cons, settledKey_cons]

theorem settled_define (c : Column) (key : Option String) :
    Settled (fun d => define c key = .ok d) (typeProblems c) (define c key) := by
  have h : Settled (fun _ => True) (typeProblems c) (define c key) :=
    (settled_typeText c).bind_last fun _ _ => .ok trivial
  exact h.with_ok.mono fun _ h => h.2

theorem settled_defineAll (cs : List Column) (key : Option String) :
    Settled (fun r => DefinedInTurn cs key r.1 ∧ r.2 = settledKey cs key)
      (cs.flatMap typeProblems) (defineAll cs key) := by
  induction cs generalizing key with
  | nil => exact .ok ⟨.nil, Option.or_none.symm⟩
  | cons c cs ih =>
    rw [List.flatMap_cons, defineAll]
    exact (settled_define c key).bind fun d hd => (ih (claimKey c key)).bind_last fun r hr =>
      .ok ⟨definedInTurn_cons.mpr ⟨d, r.1, hd, hr.1, rfl⟩, hr.2.trans (settledKey_cons key).symm⟩

theorem isKnown_iff {name : String} : isKnown t current name = true ↔ Known t current name := by
  have hcolumn : (t.column? name).isSome ↔ name ∈ t.columns.map (·.name) := by
    rw [← not_iff_not, ← isNone_column?]
    simp
  rw [isKnown, Bool.or_eq_true, PhysicalColumn.isSome_find?, hcolumn, Known]

theorem settled_requireKnown (t : Table) (current : List PhysicalColumn) (names : List String) :
    Settled (fun _ => True) (names.flatMap (nameProblems t current))
      (requireKnown t current names) := by
  have hunknown (name : String) : (!isKnown t current name) = true ↔ ¬ Known t current name := by
    rw [Bool.not_eq_true', ← isKnown_iff, Bool.not_eq_true]
  refine .search hunknown ?_
  rw [requireKnown]
  cases names.find? _ <;> rfl

theorem addedKey_settledKey :
    addedKey (existingKey current) (settledKey t.columns (keyAtFirst t current)) =
      newKey t current := by
  unfold keyAtFirst newKey
  cases existingKey current with
  | none => exact settledKey_declaredKey t
  | some existing => rfl

structure ComesTo (t : Table) (current : List PhysicalColumn) (changes : List ColumnChange)
    (ds : List ColumnDefinition) : Prop where
  changes : List.Forall₂ (ChangeOf current) t.alteredColumns changes
  columns : DefinedInTurn t.columns (keyAtFirst t current) ds

theorem settled_alterClauses :
    Settled (fun clauses => ∃ changes ds, ComesTo t current changes ds ∧
        clauses = clausesOf t changes ds (newKey t current))
      (requestProblems t current) (alterClauses t current) := by
  rw [requestProblems, alterClauses_eq]
  refine settled_checkDrops.bind fun _ _ =>
    (Settled.mapM fun c _ => settled_change c).bind fun changes hchanges =>
    settled_keyBefore.bind fun before hbefore => ?_
  subst hbefore
  refine (settled_defineAll t.columns _).bind fun r hr => ?_
  obtain ⟨ds, key⟩ := r
  obtain ⟨hds, rfl : key = settledKey t.columns (keyAtFirst t current)⟩ := hr
  have hkeys := (settled_requireKnown t current (newKey t current).toList).bind fun _ _ =>
    settled_requireKnown t current (t.foreignKeys.map (·.column))
  simp only [addedKey_settledKey, checkKeys]
  exact hkeys.bind_last fun _ _ => .ok ⟨changes, ds, ⟨hchanges, hds⟩, rfl⟩

/-- The clauses of an alteration, in the order of its requests. -/
def clauseTexts (t : Table) (changes : List ColumnChange) (ds : List ColumnDefinition)
    (added : Option String) : List String :=
  t.droppedColumns.map ("DROP COLUMN " ++ ·) ++
    changes.map ColumnChange.sql ++
    ds.map (fun d => "ADD " ++ d.sql) ++
    added.toList.map (fun key => "ADD PRIMARY KEY(" ++ key ++ ")") ++
    t.foreignKeys.map (fun k => "ADD " ++ Clause.foreignKeySql k)

/-- A statement that has one clause for each request of an alteration. -/
def CarriesOut (t : Table) (current : List PhysicalColumn) (st : Statement) : Prop :=
  ∃ changes ds, ComesTo t current changes ds ∧
    st = ⟨"ALTER TABLE " ++ t.name ++ " " ++
      ", ".intercalate (clauseTexts t changes ds (newKey t current)) ++ ";", []⟩

theorem map_sql_clausesOf (t : Table) (changes : List ColumnChange) (ds : List ColumnDefinition)
    (added : Option String) :
    (clausesOf t changes ds added).map AlterClause.sql = clauseTexts t changes ds added := by
  have hkey (key : String) : "ADD " ++ ("PRIMARY KEY(" ++ key ++ ")") =
      "ADD PRIMARY KEY(" ++ key ++ ")" := by
    rw [← String.append_assoc, ← String.append_assoc]
    rfl
  cases added <;>
    simp [clausesOf, clauseTexts, keyClause, AlterClause.sql, Clause.sql, hkey, Function.comp_def]

theorem clausesOf_eq_nil {changes : List ColumnChange} {ds : List ColumnDefinition}
    (h : ComesTo t current changes ds) :
    clausesOf t changes ds (newKey t current) = [] ↔ ¬ Requested t current := by
  have hchange : changes = [] ↔ t.alteredColumns = [] := by
    rw [← List.length_eq_zero_iff, ← h.changes.length_eq, List.length_eq_zero_iff]
  have hcolumn : ds = [] ↔ t.columns = [] := by
    rw [← List.length_eq_zero_iff, ← List.Forall₂.length_eq h.columns, List.length_zipIdx,
      List.length_eq_zero_iff]
  have hkey : keyClause (newKey t current) = [] ↔ newKey t current = none := by
    cases newKey t current <;> simp [keyClause]
  simp [clausesOf, Requested, hchange, hcolumn, hkey]

theorem settled_alter (t : Table) (current : List PhysicalColumn) :
    Settled (CarriesOut t current) (alterProblems t current) (alter t current) := by
  have halter : alter t current = alterClauses t current >>= fun clauses =>
      if clauses = [] then .error (.incomplete (.changes t.name))
      else .ok ⟨"ALTER TABLE " ++ t.name ++ " " ++
        ", ".intercalate (clauses.map AlterClause.sql) ++ ";", []⟩ := by
    rw [alter]
    congr 1
    funext clauses
    cases clauses <;> rfl
  rw [halter, alterProblems]
  refine settled_alterClauses.bind fun clauses hclauses => ?_
  obtain ⟨changes, ds, h, rfl⟩ := hclauses
  simp only [clausesOf_eq_nil h, map_sql_clausesOf]
  exact .guard_last fun _ => .ok ⟨changes, ds, h, rfl⟩

end

/-- An alteration that meets all conditions has a statement that carries out every request; any
other is refused for its first problem. -/
theorem alter_accepts (t : Table) (current : List PhysicalColumn) :
    ((∃ st, alter t current = .ok st) ↔ Alterable t current) ∧
    (∀ e, alter t current = .error e ↔ (alterProblems t current).head? = some e) ∧
    ∀ {st}, alter t current = .ok st → CarriesOut t current st := by
  have h := settled_alter t current
  exact ⟨h.exists_eq_ok_iff.trans alterProblems_eq_nil, h.eq_error_iff, fun hst => h.of_eq_ok hst⟩

/-- Requests of every kind: a column named in another case, two columns of one name, a key that
only a counting column implies, and a foreign key on an added column. -/
def orders : Table where
  name := "orders"
  columns := [
    { name := "id", type := some .bigInt, length := some (.size 20), autoIncrement := .on },
    { name := "id", type := some .text, autoIncrement := .on }]
  droppedColumns := ["legacy"]
  alteredColumns := [{ name := "STATUS", renameTo := some "state", notNull := .on }]
  foreignKeys := [⟨"id", "carts", "id", none, some .cascade⟩]

def ordersColumns : List PhysicalColumn :=
  [⟨"legacy", "text", true, "", none, ""⟩, ⟨"status", "tinyint(1)", true, "", none, ""⟩]

theorem alter_accepts_of_orders :
    let st : Statement := ⟨"ALTER TABLE orders DROP COLUMN legacy, " ++
      "CHANGE COLUMN status state tinyint(1) NOT NULL, ADD id BIGINT(20) AUTO_INCREMENT, " ++
      "ADD id TEXT AUTO_INCREMENT, ADD PRIMARY KEY(id), " ++
      "ADD FOREIGN KEY (id) REFERENCES carts(id) ON DELETE CASCADE;", []⟩
    alter orders ordersColumns = .ok st ∧ Alterable orders ordersColumns ∧
      CarriesOut orders ordersColumns st := by
  intro st
  have h : alter orders ordersColumns = .ok st := by decide +kernel
  have haccepts := alter_accepts orders ordersColumns
  exact ⟨h, haccepts.1.mp ⟨st, h⟩, haccepts.2.2 h⟩

end Schema

end BoundSql
