import BoundSql.Proofs.Schema.Clauses

/-! # Creations

A creation is looked through in one order: the name of the table and its engine, the columns that
keys refer to, the type of each column. All problems can be listed first, and without any the
statement has one clause for each column and each key.

A creation changes nothing about a table but its key, which it records. With this key in place the
table asks for the same statements again: a column that claimed the key while it was free counts up
as the key now, and no other column does.
-/

namespace BoundSql

/-- A text that is empty or starts with a blank, so that it does not run into what is in front. -/
def Text.Detached (s : String) : Prop :=
  ∀ c ∈ s.toList.head?, c = ' '

instance (s : String) : Decidable (Text.Detached s) :=
  decidable_of_iff (s.toList.head?.all (· == ' ') = true) (by
    unfold Text.Detached
    cases s.toList.head? <;> simp)

namespace Text.Detached

variable {s t : String}

theorem append (hs : Detached s) (ht : Detached t) : Detached (s ++ t) := by
  intro c hc
  cases h : s.toList with
  | nil => exact ht c (by simpa [h] using hc)
  | cons d ds => exact hs c (by simpa [h] using hc)

theorem append_of_ne (hs : Detached s) (hne : s ≠ "") (t : String) : Detached (s ++ t) := by
  intro c hc
  rw [String.toList_append, List.head?_append_of_ne_nil _ (by simpa using hne)] at hc
  exact hs c hc

end Text.Detached

namespace Schema

open Text (Detached)

section

variable (t : Table)

/-- A key refers to a column by exactly its name. -/
def columnProblems (name : String) : List Error :=
  problemIf (name ∉ t.columns.map (·.name)) (.unknownColumn t.name name)

def definitionProblems : List Error :=
  problemIf (Text.blank t.name) (.incomplete .tableName) ++
  (problemIf (Text.blank t.engine) (.incomplete (.engine t.name)) ++
  (problemIf (t.columns = []) (.incomplete (.columns t.name)) ++
  ((declaredKey t).toList.flatMap (columnProblems t) ++
  (t.foreignKeys.map (·.column)).flatMap (columnProblems t))))

def createProblems : List Error :=
  definitionProblems t ++ t.columns.flatMap typeProblems

structure Creatable : Prop where
  named : ¬ Text.blank t.name
  engine : ¬ Text.blank t.engine
  columns : t.columns ≠ []
  key : ∀ name ∈ declaredKey t, name ∈ t.columns.map (·.name)
  foreignKeys : ∀ k ∈ t.foreignKeys, k.column ∈ t.columns.map (·.name)
  typed : ∀ c ∈ t.columns, c.Typed

end

def tableClauses (t : Table) (ds : List ColumnDefinition) : List Clause :=
  ds.map .column ++ keyClause (chosenKey t) ++ t.foreignKeys.map .foreignKey

structure Creates (t : Table) (mode : CreateMode) (sts : List Statement)
    (ds : List ColumnDefinition) : Prop where
  columns : DefinedInTurn t.columns (declaredKey t) ds
  statements : sts = (if mode = .dropIfExists then [⟨dropSql t.name, []⟩] else []) ++
    [⟨(creation t mode (tableClauses t ds)).sql, []⟩]

/-- A table with its chosen key in place. -/
def keyed (t : Table) : Table :=
  { t with primaryKey := chosenKey t }

section

variable {t u : Table} {mode : CreateMode} {sts : List Statement}

theorem createProblems_eq_nil : createProblems t = [] ↔ Creatable t := by
  simp only [createProblems, definitionProblems, List.append_eq_nil_iff, List.flatMap_eq_nil_iff,
    problemIf_eq_nil, columnProblems, typeProblems_eq_nil, not_not, List.forall_mem_map,
    Option.mem_toList]
  constructor
  · rintro ⟨⟨named, engine, columns, key, foreignKeys⟩, typed⟩
    exact ⟨named, engine, columns, key, foreignKeys, typed⟩
  · rintro ⟨named, engine, columns, key, foreignKeys, typed⟩
    exact ⟨⟨named, engine, columns, key, foreignKeys⟩, typed⟩

theorem settled_requireColumns (t : Table) (names : List String) :
    Settled (fun _ => True) (names.flatMap (columnProblems t)) (requireColumns t names) := by
  refine .search (fun _ => isNone_column?) ?_
  rw [requireColumns]
  cases names.find? _ <;> rfl

theorem settled_checkDefinition (t : Table) :
    Settled (fun _ => True) (definitionProblems t) (checkDefinition t) := by
  have h : checkDefinition t = requireName t >>= fun _ =>
      if Text.blank t.engine then .error (.incomplete (.engine t.name))
      else if t.columns = [] then .error (.incomplete (.columns t.name))
      else requireColumns t (declaredKey t).toList >>= fun _ =>
        requireColumns t (t.foreignKeys.map (·.column)) := by
    rw [checkDefinition]
    cases t.columns <;> rfl
  rw [h]
  refine settled_requireName.bind fun _ _ => .guard fun _ => .guard fun _ => ?_
  exact (settled_requireColumns t _).bind fun _ _ => settled_requireColumns t _

theorem settled_definition (t : Table) :
    Settled (fun r => ∃ ds, DefinedInTurn t.columns (declaredKey t) ds ∧
        r = (tableClauses t ds, chosenKey t))
      (createProblems t) (definition t) := by
  rw [definition_eq, createProblems]
  refine (settled_checkDefinition t).bind fun _ _ => (settled_defineAll t.columns _).map ?_
  rintro ⟨ds, key⟩ ⟨hds, hkey⟩
  obtain rfl : key = chosenKey t := hkey.trans (settledKey_declaredKey t)
  exact ⟨ds, hds, rfl⟩

theorem create_of_definition {clauses : List Clause} {key : Option String}
    (h : definition t = .ok (clauses, key)) (mode : CreateMode) :
    create t mode = .ok ((if mode == .dropIfExists then [⟨dropSql t.name, []⟩] else []) ++
      [⟨(creation t mode clauses).sql, []⟩], recordKey t key) := by
  rw [create, h]
  rfl

theorem settled_create (t : Table) (mode : CreateMode) :
    Settled (fun r => (∃ ds, Creates t mode r.1 ds) ∧ r.2 = keyed t) (createProblems t)
      (create t mode) := by
  refine (settled_definition t).bind_last ?_
  rintro _ ⟨ds, hds, rfl⟩
  refine .ok ⟨⟨ds, hds, ?_⟩, recordKey_chosenKey t⟩
  cases mode <;> rfl

/-- A creation succeeds only if all its conditions are met, and then by one clause for each column
and each key. -/
theorem creates_of_create (h : create t mode = .ok (sts, u)) :
    Creatable t ∧ (∃ ds, Creates t mode sts ds) ∧ u = keyed t := by
  have hsettled := settled_create t mode
  refine ⟨createProblems_eq_nil.mp ?_, hsettled.of_eq_ok h⟩
  exact hsettled.exists_eq_ok_iff.mp ⟨_, h⟩

end

theorem detached_keywordIf {keyword : String} (h : Detached keyword) (present : Bool) :
    Detached (keywordIf present keyword) := by
  cases present with
  | false => simp [keywordIf, Detached]
  | true => exact h

theorem detached_optionText {α : Type} {keyword : String} (h : Detached keyword)
    (hne : keyword ≠ "") (write : α → String) (o : Option α) :
    Detached (optionText keyword write o) := by
  cases o with
  | none => simp [optionText, Detached]
  | some a => exact h.append_of_ne hne (write a)

/-- The options of a column, as they stand behind its type. -/
def ColumnDefinition.options (d : ColumnDefinition) : String :=
  keywordIf d.unsigned " unsigned" ++ (keywordIf d.notNull " NOT NULL" ++
  (keywordIf d.autoIncrement " AUTO_INCREMENT" ++ (keywordIf d.zerofill " ZEROFILL" ++
  (optionText " DEFAULT " DefaultValue.sql d.default ++ (optionText " ON UPDATE " id d.onUpdate ++
  optionText " COMMENT " (Text.quoteWith '"') d.comment)))))

theorem sql_eq_options (d : ColumnDefinition) : d.sql = d.name ++ " " ++ d.type ++ d.options := by
  simp only [ColumnDefinition.sql, ColumnDefinition.options, String.append_assoc]

theorem detached_options (d : ColumnDefinition) : Detached d.options := by
  have hkeyword (present : Bool) {keyword : String} (h : Detached keyword) :=
    detached_keywordIf h present
  have hoption {α : Type} {keyword : String} (h : Detached keyword) (hne : keyword ≠ "") :=
    detached_optionText (α := α) h hne
  refine .append (hkeyword _ (by decide)) (.append (hkeyword _ (by decide)) (.append
    (hkeyword _ (by decide)) (.append (hkeyword _ (by decide)) ?_)))
  exact .append (hoption (by decide) (by decide) _ _) (.append
    (hoption (by decide) (by decide) _ _) (hoption (by decide) (by decide) _ _))

/-- A column whose type has no length is written without one: behind the keyword of the type come
its options and nothing else. -/
def WrittenBare (c : Column) (d : ColumnDefinition) : Prop :=
  ∀ type, c.type = some type → ¬ type.takesLength →
    ∃ options, d.sql = c.name ++ " " ++ type.sql ++ options ∧ Detached options

theorem writtenBare_of_define {c : Column} {key : Option String} {d : ColumnDefinition}
    (h : define c key = .ok d) : WrittenBare c d := by
  intro type htype htakes
  obtain ⟨text, htext, hd⟩ := bind_eq_ok.mp h
  obtain rfl := Except.ok.inj hd
  obtain rfl : type.sql = text := by
    simpa [typeText, htype, htakes] using htext
  exact ⟨_, sql_eq_options _, detached_options _⟩

section

variable {t u : Table} {mode : CreateMode} {sts : List Statement}

theorem declaredKey_keyed (t : Table) : declaredKey (keyed t) = chosenKey t := by
  rw [declaredKey_eq, keyed, chosenKey, ← Option.or_assoc, Option.or_self]

theorem settledKey_chosenKey (t : Table) : settledKey t.columns (chosenKey t) = chosenKey t := by
  rw [← settledKey_declaredKey, settledKey, settledKey, Option.or_assoc, Option.or_self]

theorem chosenKey_keyed (t : Table) : chosenKey (keyed t) = chosenKey t := by
  rw [← settledKey_declaredKey, declaredKey_keyed]
  exact settledKey_chosenKey t

theorem recordKey_keyed (t : Table) : recordKey (keyed t) (chosenKey t) = keyed t := by
  rw [← chosenKey_keyed t, recordKey_chosenKey, chosenKey_keyed]
  rfl

theorem Creatable.keyed (h : Creatable t) : Creatable (keyed t) where
  named := h.named
  engine := h.engine
  columns := h.columns
  key := by
    rw [declaredKey_keyed]
    exact chosenKey_mem h.key
  foreignKeys := h.foreignKeys
  typed := h.typed

theorem Creatable.checkDefinition (h : Creatable t) : checkDefinition t = .ok () := by
  have hproblems := createProblems_eq_nil.mpr h
  rw [createProblems, List.append_eq_nil_iff] at hproblems
  obtain ⟨⟨⟩, hok⟩ := (settled_checkDefinition t).exists_eq_ok_iff.mpr hproblems.1
  exact hok

/-- Whether the key is chosen midway or before, the columns are defined under the same one. -/
theorem defineAll_chosenKey (ht : t.NamesDiffer) :
    defineAll t.columns (chosenKey t) = defineAll t.columns (declaredKey t) := by
  rw [defineAll_eq_mapM ht, defineAll_eq_mapM ht, settledKey_chosenKey, settledKey_declaredKey]

theorem definition_keyed (ht : t.NamesDiffer) (h : Creatable t) :
    definition (keyed t) = definition t := by
  have hcolumns : defineAll (keyed t).columns (chosenKey t) =
      defineAll t.columns (declaredKey t) := defineAll_chosenKey ht
  rw [definition_eq, definition_eq, h.checkDefinition, h.keyed.checkDefinition, declaredKey_keyed,
    hcolumns]
  rfl

theorem create_keyed (ht : t.NamesDiffer) (h : create t mode = .ok (sts, u)) :
    create u mode = .ok (sts, u) := by
  obtain ⟨hmet, -, rfl⟩ := creates_of_create h
  obtain ⟨⟨clauses, key⟩, hdefinition, -⟩ := bind_eq_ok.mp h
  obtain ⟨ds, -, hkey⟩ := (settled_definition t).of_eq_ok hdefinition
  obtain rfl : key = chosenKey t := (Prod.mk.inj hkey).2
  have hfirst := create_of_definition hdefinition mode
  have hagain := create_of_definition ((definition_keyed ht hmet).trans hdefinition) mode
  rw [h] at hfirst
  obtain ⟨rfl, -⟩ := Prod.mk.inj (Except.ok.inj hfirst)
  rwa [recordKey_keyed] at hagain

end

end Schema

end BoundSql
