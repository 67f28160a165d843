import BoundSql.Schema.Clause
import BoundSql.Statement

/-! # CREATE TABLE

The whole description is checked before any text is made. A key that only a counting column
implies is recorded in the table once the statement is there.
-/

namespace BoundSql.Schema

/-- What happens to a table that exists already. -/
inductive CreateMode where
  | plain
  | ifNotExists
  | dropIfExists
  deriving DecidableEq, Repr

structure Creation where
  table : String
  ifNotExists : Bool
  clauses : List Clause
  engine : String
  charset : String
  deriving DecidableEq, Repr

def Creation.sql (c : Creation) : String :=
  "CREATE TABLE " ++ keywordIf c.ifNotExists "IF NOT EXISTS " ++ c.table ++ " (" ++
    ", ".intercalate (c.clauses.map Clause.sql) ++ ") ENGINE=" ++ c.engine ++
    " DEFAULT CHARSET=" ++ c.charset ++ ";"

def dropSql (table : String) : String :=
  "DROP TABLE IF EXISTS " ++ table ++ ";"

/-- The primary key as a clause. -/
def keyClause : Option String → List Clause
  | some key => [.primaryKey key]
  | none => []

/-- Requires that each of some names is exactly the name of a column. -/
def requireColumns (t : Table) (names : List String) : Except Error Unit :=
  match names.find? fun name => (t.column? name).isNone with
  | some name => unknownColumn t name
  | none => .ok ()

def definition (t : Table) : Except Error (List Clause × Option String) := do
  requireName t
  if Text.blank t.engine then throw (.incomplete (.engine t.name))
  if t.columns.isEmpty then throw (.incomplete (.columns t.name))
  requireColumns t (declaredKey t).toList
  requireColumns t (t.foreignKeys.map (·.column))
  let (columns, key) ← defineAll t.columns (declaredKey t)
  pure (columns.map .column ++ keyClause key ++ t.foreignKeys.map .foreignKey, key)

def creation (t : Table) (mode : CreateMode) (clauses : List Clause) : Creation where
  table := t.name
  ifNotExists := mode == .ifNotExists
  clauses := clauses
  engine := t.engine
  charset := t.charset

/-- The table with its key recorded. -/
def recordKey (t : Table) : Option String → Table
  | some key => t.withPrimaryKey key
  | none => t

/-- The statements that create a table, and the table with its key. -/
def create (t : Table) (mode : CreateMode) : Except Error (List Statement × Table) := do
  let (clauses, key) ← definition t
  let drop := if mode == .dropIfExists then [⟨dropSql t.name, []⟩] else []
  pure (drop ++ [⟨(creation t mode clauses).sql, []⟩], recordKey t key)

end BoundSql.Schema
