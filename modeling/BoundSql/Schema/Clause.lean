import BoundSql.Error
import BoundSql.Table.Basic
import BoundSql.Text.Blank

/-! # Clauses of a table definition

A definition of a table is a list of clauses: a definition for each column, the primary key, the
foreign keys. The same clauses stand in a CREATE TABLE and, each behind ADD, in an ALTER TABLE.
-/

namespace BoundSql.Schema

/-- What is written about a column; every part has been settled. -/
structure ColumnDefinition where
  name : String
  type : String
  unsigned : Bool
  notNull : Bool
  autoIncrement : Bool
  zerofill : Bool
  default : Option DefaultValue
  onUpdate : Option String
  comment : Option String
  deriving DecidableEq, Repr

/-- A keyword that is written when a condition holds. -/
def keywordIf (present : Bool) (keyword : String) : String :=
  if present then keyword else ""

/-- A keyword with its operand, if there is one. -/
def optionText {α : Type} (keyword : String) (write : α → String) : Option α → String
  | some a => keyword ++ write a
  | none => ""

namespace ColumnDefinition

def sql (d : ColumnDefinition) : String :=
  d.name ++ " " ++ d.type ++
  keywordIf d.unsigned " unsigned" ++
  keywordIf d.notNull " NOT NULL" ++
  keywordIf d.autoIncrement " AUTO_INCREMENT" ++
  keywordIf d.zerofill " ZEROFILL" ++
  optionText " DEFAULT " DefaultValue.sql d.default ++
  optionText " ON UPDATE " id d.onUpdate ++
  optionText " COMMENT " (Text.quoteWith '"') d.comment

end ColumnDefinition

inductive Clause where
  | column (d : ColumnDefinition)
  | primaryKey (column : String)
  | foreignKey (k : ForeignKey)
  deriving DecidableEq, Repr

namespace Clause

def foreignKeySql (k : ForeignKey) : String :=
  "FOREIGN KEY (" ++ k.column ++ ") REFERENCES " ++ k.referencesTable ++ "(" ++
    k.referencesColumn ++ ")" ++
  optionText " ON UPDATE " ReferentialAction.sql k.onUpdate ++
  optionText " ON DELETE " ReferentialAction.sql k.onDelete

def sql : Clause → String
  | column d => d.sql
  | primaryKey name => "PRIMARY KEY(" ++ name ++ ")"
  | foreignKey k => foreignKeySql k

end Clause

/-- The type of a column with its length. A type without a length ignores one that is given. -/
def typeText (c : Column) : Except Error String :=
  match c.type with
  | none => .error (.incomplete (.columnType c.name))
  | some type =>
    if !type.takesLength then .ok type.sql
    else match c.length with
      | some length => .ok (type.sql ++ "(" ++ length.sql ++ ")")
      | none => .error (.missingLength c.name type.sql)

/-- Whether a column counts up, given the key so far. Without a key a column marked so does; with
one, only the key itself does, unless it is marked otherwise. -/
def countsUp (c : Column) : (key : Option String) → Bool
  | some key => key == c.name && c.autoIncrement != .off
  | none => c.autoIncrement == .on

/-- The definition of a column, given the key so far. -/
def define (c : Column) (key : Option String) : Except Error ColumnDefinition := do
  pure {
    name := c.name
    type := ← typeText c
    unsigned := c.unsigned == .on
    notNull := c.notNull == .on
    autoIncrement := countsUp c key
    zerofill := c.zerofill == .on
    default := c.default.value?
    onUpdate := c.onUpdate
    comment := c.comment.value? }

/-- The key after a column: the first column that counts up becomes the key if there is none. -/
def claimKey (c : Column) : (key : Option String) → Option String
  | some key => some key
  | none => if c.autoIncrement == .on then some c.name else none

/-- The definitions of columns in order, and the key in the end. -/
def defineAll : List Column → (key : Option String) →
    Except Error (List ColumnDefinition × Option String)
  | [], key => .ok ([], key)
  | c :: rest, key => do
    let d ← define c key
    let (ds, last) ← defineAll rest (claimKey c key)
    pure (d :: ds, last)

/-- The key that a table asks for: the last column marked so, else the one it names. -/
def declaredKey (t : Table) : Option String :=
  match t.columns.reverse.find? (·.primaryKey == .on) with
  | some c => some c.name
  | none => t.primaryKey

def unknownColumn {α : Type} (t : Table) (column : String) : Except Error α :=
  .error (.unknownColumn t.name column)

def requireName (t : Table) : Except Error Unit :=
  if Text.blank t.name then .error (.incomplete .tableName) else .ok ()

end BoundSql.Schema
