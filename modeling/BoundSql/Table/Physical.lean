import BoundSql.Query.Document
import BoundSql.Row
import BoundSql.Text.Letters

/-! # Physical columns

What the server says about the columns that a table has: one row per column, with the cells
`Field`, `Type`, `Null`, `Key`, `Default` and `Extra`.
-/

namespace BoundSql

open Json (Draft Read Field Shape)

structure PhysicalColumn where
  name : String
  type : String
  nullable : Bool
  key : String
  default : Option String
  extra : String
  deriving DecidableEq, Repr

namespace PhysicalColumn

/-- The column that a row describes, unless the row gives no name. -/
def ofRow? (row : Row) : Option PhysicalColumn := do
  let name ← row.getText? "Field"
  let text := fun column => (row.getText? column).getD ""
  pure {
    name
    type := text "Type"
    nullable := Text.sameName (text "Null") "YES"
    key := text "Key"
    default := row.getText? "Default"
    extra := text "Extra" }

def isPrimaryKey (c : PhysicalColumn) : Bool :=
  c.key == "PRI"

def isAutoIncrement (c : PhysicalColumn) : Bool :=
  Text.mentions (Text.lower c.extra) "auto_increment"

/-- The first column of the given name, in any case. -/
def find? (columns : List PhysicalColumn) (name : String) : Option PhysicalColumn :=
  columns.find? fun c => Text.sameName c.name name

def toJson (c : PhysicalColumn) : Json :=
  .object [("name", .string c.name), ("column_type", .string c.type),
    ("nullable", .bool c.nullable), ("key", .string c.key), ("default", .ofString? c.default),
    ("extra", .string c.extra)]

def shape : Shape PhysicalColumn where
  title := "struct ColumnInfo"
  start := ⟨"", "", false, "", none, ""⟩
  fields := [
    .required "name" Draft.text fun name c => { c with name },
    .required "column_type" Draft.text fun type c => { c with type },
    .required "nullable" Draft.boolean fun nullable c => { c with nullable },
    .required "key" Draft.text fun key c => { c with key },
    .nullable "default" Draft.text fun default c => { c with default },
    .required "extra" Draft.text fun extra c => { c with extra }]

def readAll (d : Draft) : Read (List PhysicalColumn) :=
  d.list shape.read

end PhysicalColumn

end BoundSql
