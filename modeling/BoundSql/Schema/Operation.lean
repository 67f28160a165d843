import BoundSql.Schema.Alter
import BoundSql.Schema.Index

/-! # Schema operations

A schema operation creates a table, alters it, or adds an index to it. Its document names the
operation in one member and the details in the others.
-/

namespace BoundSql.Schema

open Json (Draft Read Field Shape)

inductive Operation where
  | createTable (mode : CreateMode)
  | alterTable
  | addIndex (name columns : String) (unique : Bool)
  deriving DecidableEq, Repr

namespace CreateMode

def keyword : CreateMode → String
  | plain => "plain"
  | ifNotExists => "if_not_exists"
  | dropIfExists => "drop_if_exists"

def cases : List (String × CreateMode) :=
  [plain, ifNotExists, dropIfExists].map fun mode => (mode.keyword, mode)

def readNothing : Draft → Read Unit
  | .null _ => .ok ()
  | .object [] _ _ => .ok ()
  | d => d.mismatch "unit"

/-- A mode by its name, or as an object with the name alone. -/
def read : Draft → Read CreateMode
  | .string name span => Draft.lookUp cases (.behind span.stop) name
  | .object [(name, d)] _ _ => do
    let mode ← Draft.lookUp cases (.behind name.stop) (← Read.ofExcept name.text)
    readNothing d
    pure mode
  | .object _ start _ =>
    Read.refuse (.behind start) (.invalidValue .map "map with a single key")
  | d => d.mismatch "string or map"

end CreateMode

namespace Operation

/-- Whether the operation depends on the columns that the table has. -/
def needsIntrospection : Operation → Bool
  | createTable _ => false
  | _ => true

/-- The statements of an operation, and the table after it. -/
def statements (operation : Operation) (t : Table) (current : List PhysicalColumn) :
    Except Error (List Statement × Table) :=
  match operation with
  | createTable mode => create t mode
  | alterTable => do pure ([← alter t current], t)
  | addIndex name columns unique => do pure ([← Schema.addIndex t current name columns unique], t)

def toJson : Operation → Json
  | createTable mode =>
    .object [("operation", .string "create_table"), ("mode", .string mode.keyword)]
  | alterTable => .object [("operation", .string "alter_table")]
  | addIndex name columns unique =>
    .object [("operation", .string "add_index"), ("name", .string name),
      ("columns", .string columns), ("unique", .bool unique)]

inductive Kind where
  | createTable
  | alterTable
  | addIndex
  deriving DecidableEq, Repr

def Kind.cases : List (String × Kind) :=
  [("create_table", createTable), ("alter_table", alterTable), ("add_index", addIndex)]

def Kind.read : Draft → Read Kind
  | .string name span => Draft.lookUp cases (.behind span.stop) name
  | d => d.mismatch Draft.caseTitle

/-- Refuses an array with more items than the operation has details. -/
def refuseSurplus (fields : Nat) (rest : List Draft) : Read Unit :=
  if rest.isEmpty then .ok ()
  else Read.refuseValue (.invalidLength (fields + rest.length)
    (if fields = 1 then "1 element in sequence" else toString fields ++ " elements in sequence"))

def createShape : Shape Operation where
  title := "struct variant SchemaOperation::CreateTable"
  start := createTable .plain
  fields := [.defaulted "mode" CreateMode.read fun mode _ => createTable mode]

structure IndexDetails where
  name : String
  columns : String
  unique : Bool

def indexShape : Shape IndexDetails where
  title := "struct variant SchemaOperation::AddIndex"
  start := ⟨"", "", false⟩
  fields := [
    .required "name" Draft.text fun name i => { i with name },
    .required "columns" Draft.text fun columns i => { i with columns },
    .defaulted "unique" Draft.boolean fun unique i => { i with unique }]

/-- Reads the details of an operation, which have been read as a whole before. -/
def readDetails (details : Draft) : Kind → Read Operation
  | .createTable =>
    createShape.readWith (fun rest _ => refuseSurplus createShape.fields.length rest) details
  | .alterTable =>
    match details with
    | .array items _ _ => do
      refuseSurplus 0 items
      pure alterTable
    | _ => .ok alterTable
  | .addIndex => do
    let i ← indexShape.readWith (fun rest _ => refuseSurplus indexShape.fields.length rest) details
    pure (addIndex i.name i.columns i.unique)

/-- A value that is kept for later. -/
def keep (d : Draft) : Read Json :=
  Read.ofExcept d.whole

/-- Reads the members of an operation: its kind, and the rest for later. -/
def readMembers : List (Json.Name × Draft) → Option Kind →
    Read (Option Kind × List (String × Json))
  | [], kind => .ok (kind, [])
  | (name, d) :: rest, kind => do
    let text ← Read.ofExcept name.text
    if text = "operation" then
      if kind.isSome then Read.refuse (.objectEnd name.stop) (.duplicateField "operation")
      else readMembers rest (some (← Kind.read d))
    else
      let j ← keep d
      let (kind, more) ← readMembers rest kind
      pure (kind, (text, j) :: more)

/-- The refusal of an operation that does not say what kind it is. -/
def missingKind {α : Type} (ending : Json.Ending) (start : Nat) : Read α :=
  Read.refuse (.behind (ending.stop?.getD start)) (.missingField "operation")

def read : Draft → Read Operation
  | .object members start ending => do
    let (kind, details) ← readMembers members none
    Read.ofExcept ending.check
    match kind with
    | none => missingKind ending start
    | some kind => readDetails (Json.object details).draft kind
  | .array [] start ending => do
    Read.ofExcept ending.check
    missingKind ending start
  | .array (d :: rest) _ ending => do
    let kind ← Kind.read d
    let details ← rest.mapM keep
    Read.ofExcept ending.check
    readDetails (Json.array details).draft kind
  | d => d.mismatch "internally tagged enum SchemaOperation"

end Operation

end BoundSql.Schema
