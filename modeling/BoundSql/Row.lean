import BoundSql.Value

/-! # Result rows

A row is the list of its cells in the order of the result. A name that occurs twice stands for its
first cell.
-/

namespace BoundSql

structure Row where
  cells : List (String × Value)
  deriving DecidableEq, Repr, Inhabited

namespace Row

def empty : Row := ⟨[]⟩

def push (row : Row) (column : String) (value : Value) : Row :=
  ⟨row.cells ++ [(column, value)]⟩

def columns (row : Row) : List String :=
  row.cells.map (·.1)

def size (row : Row) : Nat :=
  row.cells.length

def get? (row : Row) (column : String) : Option Value :=
  row.cells.lookup column

def getText? (row : Row) (column : String) : Option String :=
  (row.get? column).bind Value.toText

def toJson (row : Row) : Json :=
  .object (row.cells.map fun (column, value) => (column, value.toJson))

end Row

end BoundSql
