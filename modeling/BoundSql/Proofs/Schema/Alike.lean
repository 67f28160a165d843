import BoundSql.Proofs.Text.Literal
import BoundSql.Schema.Alter
import BoundSql.Schema.Create
import Mathlib.Data.List.Forall2

/-! # Tables that differ in texts of literals

The texts of a table are of two kinds. Names, types, expressions and the like are written as they
stand; the literals of defaults, the comments and the entries of value lists are written as
literals. Two tables are alike if they differ in texts of the second kind only. Whether a statement
is refused depends on the first kind alone.
-/

namespace BoundSql

def DefaultValue.literals : DefaultValue → List String
  | literal s => if isTimestamp s then [] else [s]
  | expression _ => []

def Setting.literals {α : Type} (ofValue : α → List String) (cleared : List String) :
    Setting α → List String
  | unset => []
  | set a => ofValue a
  | clear => cleared

def Length.entries : Length → List String
  | values texts => texts
  | _ => []

namespace Column

/-- The entries of the value list that the type of a column is written with. -/
def listed (c : Column) : List String :=
  if c.type.any SqlType.takesLength then c.length.toList.flatMap Length.entries else []

/-- Whether an entry of the value list mentions `unsigned`. -/
def spellsUnsigned (c : Column) : Bool :=
  c.listed.any fun s => Text.mentions (Text.lower s) "unsigned"

def literals (c : Column) : List String :=
  c.listed ++ c.default.literals DefaultValue.literals [] ++ c.comment.literals ([·]) []

/-- The texts that the change of a column spells as literals, in order. A comment that is taken away
is written as an empty one. -/
def changeLiterals (c : Column) : List String :=
  c.listed ++ c.default.literals DefaultValue.literals [] ++ c.comment.literals ([·]) [""]

/-- A column without the texts that may be written as literals. -/
def bare (c : Column) : Column :=
  { c with length := none, default := .unset, comment := .unset }

end Column

def Table.bare (t : Table) : Table :=
  { t with columns := t.columns.map .bare, alteredColumns := t.alteredColumns.map .bare }

/-- A column whose texts that are written as they stand have no quotes. -/
structure Column.Unquoted (c : Column) : Prop where
  name : Text.Unquoted c.name
  renameTo : ∀ s ∈ c.renameTo, Text.Unquoted s
  onUpdate : ∀ s ∈ c.onUpdate, Text.Unquoted s
  default : ∀ s, c.default = .set (.expression s) → Text.Unquoted s

structure ForeignKey.Unquoted (k : ForeignKey) : Prop where
  column : Text.Unquoted k.column
  referencesTable : Text.Unquoted k.referencesTable
  referencesColumn : Text.Unquoted k.referencesColumn

structure PhysicalColumn.Unquoted (c : PhysicalColumn) : Prop where
  name : Text.Unquoted c.name
  type : Text.Unquoted c.type

structure Table.Unquoted (t : Table) : Prop where
  name : Text.Unquoted t.name
  engine : Text.Unquoted t.engine
  charset : Text.Unquoted t.charset
  columns : ∀ c ∈ t.columns, c.Unquoted
  droppedColumns : ∀ s ∈ t.droppedColumns, Text.Unquoted s
  alteredColumns : ∀ c ∈ t.alteredColumns, c.Unquoted
  primaryKey : ∀ s ∈ t.primaryKey, Text.Unquoted s
  foreignKeys : ∀ k ∈ t.foreignKeys, k.Unquoted

inductive DefaultValue.Alike : DefaultValue → DefaultValue → Prop
  | refl (d : DefaultValue) : Alike d d
  | literal {s t : String} (hs : ¬ isTimestamp s) (ht : ¬ isTimestamp t) :
    Alike (.literal s) (.literal t)

inductive Length.Alike : Length → Length → Prop
  | refl (l : Length) : Alike l l
  | values {ss ts : List String} (h : ss.length = ts.length) : Alike (.values ss) (.values ts)

inductive Setting.Alike {α : Type} (R : α → α → Prop) : Setting α → Setting α → Prop
  | unset : Alike R .unset .unset
  | set {a b : α} (h : R a b) : Alike R (.set a) (.set b)
  | clear : Alike R .clear .clear

/-- Columns that differ in texts of literals only. -/
structure Column.Alike (c d : Column) : Prop where
  length : Option.Rel Length.Alike c.length d.length
  default : Setting.Alike DefaultValue.Alike c.default d.default
  comment : Setting.Alike (fun _ _ => True) c.comment d.comment
  rest : c.bare = d.bare

/-- If `unsigned` is on, the value lists both mention it or both do not. -/
def Column.SameSign (c d : Column) : Prop :=
  c.unsigned = .on → c.spellsUnsigned = d.spellsUnsigned

structure Table.Alike (t u : Table) : Prop where
  columns : List.Forall₂ Column.Alike t.columns u.columns
  alteredColumns : List.Forall₂ Column.Alike t.alteredColumns u.alteredColumns
  rest : t.bare = u.bare

theorem Setting.Alike.refl {α : Type} {R : α → α → Prop} (h : ∀ a, R a a) (s : Setting α) :
    s.Alike R s := by
  cases s with
  | unset => exact .unset
  | set a => exact .set (h a)
  | clear => exact .clear

theorem Setting.Alike.mono {α : Type} {R S : α → α → Prop} {s s' : Setting α} (h : s.Alike R s')
    (hRS : ∀ a b, s = .set a → R a b → S a b) : s.Alike S s' := by
  cases h with
  | unset => exact .unset
  | set h => exact .set (hRS _ _ rfl h)
  | clear => exact .clear

theorem Column.Alike.refl (c : Column) : c.Alike c where
  length := by
    cases c.length with
    | none => exact .none
    | some l => exact .some (.refl l)
  default := .refl .refl _
  comment := .refl (fun _ => trivial) _
  rest := rfl

theorem Column.Alike.exists_eq {c d : Column} (h : c.Alike d) :
    ∃ length default comment, d = { c with length, default, comment } := by
  refine ⟨d.length, d.default, d.comment, ?_⟩
  have hbare := h.rest
  cases c
  cases d
  simpa [bare, eq_comm] using hbare

theorem Table.Alike.refl (t : Table) : t.Alike t :=
  ⟨List.forall₂_same.mpr fun c _ => .refl c, List.forall₂_same.mpr fun c _ => .refl c, rfl⟩

theorem Table.Alike.exists_eq {t u : Table} (h : t.Alike u) :
    ∃ columns alteredColumns, u = { t with columns, alteredColumns } := by
  refine ⟨u.columns, u.alteredColumns, ?_⟩
  have hbare := h.rest
  cases t
  cases u
  simp only [bare, mk.injEq] at hbare ⊢
  simp [hbare]

namespace Schema

variable (t : Table) (current : List PhysicalColumn)

theorem declaredKey_bare : declaredKey t.bare = declaredKey t := by
  have h : (fun c : Column => c.primaryKey == .on) ∘ Column.bare = fun c => c.primaryKey == .on :=
    rfl
  rw [declaredKey, declaredKey, Table.bare, ← List.map_reverse, List.find?_map, h]
  cases t.columns.reverse.find? (·.primaryKey == .on) <;> rfl

theorem column?_bare (name : String) : t.bare.column? name = (t.column? name).map .bare :=
  List.find?_map

theorem requireColumns_bare (names : List String) :
    requireColumns t.bare names = requireColumns t names := by
  simp only [requireColumns, column?_bare, Option.isNone_map]
  rfl

theorem requireKnown_bare (names : List String) :
    requireKnown t.bare current names = requireKnown t current names := by
  simp only [requireKnown, isKnown, column?_bare, Option.isSome_map]
  rfl

theorem checkDrop_bare (name : String) :
    checkDrop t.bare current name = checkDrop t current name := by
  have h : t.bare.alteredColumns.any (fun c => Text.sameName c.name name) =
      t.alteredColumns.any fun c => Text.sameName c.name name := List.any_map
  rw [checkDrop, checkDrop, h]
  rfl

theorem keyBefore_bare (existing : Option String) :
    keyBefore t.bare existing = keyBefore t existing := by
  simp only [keyBefore, declaredKey_bare]
  rfl

def checkDefinition (t : Table) : Except Error Unit := do
  requireName t
  if Text.blank t.engine then throw (.incomplete (.engine t.name))
  if t.columns.isEmpty then throw (.incomplete (.columns t.name))
  requireColumns t (declaredKey t).toList
  requireColumns t (t.foreignKeys.map (·.column))

theorem checkDefinition_bare : checkDefinition t.bare = checkDefinition t := by
  have h : t.bare.columns.isEmpty = t.columns.isEmpty := List.isEmpty_map
  rw [checkDefinition, checkDefinition, h, declaredKey_bare]
  simp only [requireColumns_bare]
  rfl

theorem definition_eq : definition t = checkDefinition t >>= fun _ =>
    (defineAll t.columns (declaredKey t)).map fun (columns, key) =>
      (columns.map .column ++ keyClause key ++ t.foreignKeys.map .foreignKey, key) := by
  simp only [definition, checkDefinition, bind_assoc]
  cases requireName t with
  | error => rfl
  | ok =>
    by_cases he : Text.blank t.engine
    · simp only [if_pos he]
      rfl
    by_cases hc : t.columns.isEmpty
    · simp only [if_neg he, if_pos hc]
      rfl
    simp only [if_neg he, if_neg hc, bind_assoc]
    cases defineAll t.columns (declaredKey t) <;> rfl

def checkDrops (t : Table) (current : List PhysicalColumn) : Except Error Unit := do
  requireName t
  if current.isEmpty then throw (.emptyTable t.name)
  t.droppedColumns.forM (checkDrop t current)

def checkKeys (t : Table) (current : List PhysicalColumn) (added : Option String) :
    Except Error Unit := do
  requireKnown t current added.toList
  requireKnown t current (t.foreignKeys.map (·.column))

theorem checkDrops_bare : checkDrops t.bare current = checkDrops t current := by
  rw [checkDrops, checkDrops, funext (checkDrop_bare t current)]
  rfl

theorem checkKeys_bare (added : Option String) :
    checkKeys t.bare current added = checkKeys t current added := by
  rw [checkKeys, checkKeys]
  simp only [requireKnown_bare]
  rfl

def clausesOf (t : Table) (changes : List ColumnChange) (columns : List ColumnDefinition)
    (added : Option String) : List AlterClause :=
  t.droppedColumns.map .drop ++ changes.map .change ++
    (columns.map Clause.column ++ keyClause added ++ t.foreignKeys.map Clause.foreignKey).map .add

theorem alterClauses_eq : alterClauses t current = (do
    checkDrops t current
    let changes ← t.alteredColumns.mapM (change t current)
    let before ← keyBefore t (existingKey current)
    let (columns, key) ← defineAll t.columns before
    let added := addedKey (existingKey current) key
    checkKeys t current added
    pure (clausesOf t changes columns added)) := by
  simp only [alterClauses, checkDrops, checkKeys, bind_assoc]
  cases requireName t with
  | error => rfl
  | ok =>
    by_cases hc : current.isEmpty
    · simp only [if_pos hc]
      rfl
    · simp only [if_neg hc]
      rfl

end Schema

end BoundSql
