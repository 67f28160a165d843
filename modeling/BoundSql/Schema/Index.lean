import BoundSql.Schema.Clause
import BoundSql.Statement
import BoundSql.Table.Physical

/-! # CREATE INDEX

The columns of an index are given as one text, with commas between the entries. An entry starts
with the name of a column and may go on with a length or a direction.
-/

namespace BoundSql.Schema

/-- The entries of a column text that are not blank. -/
def indexEntries (columns : String) : List String :=
  ((Text.split ',' columns).map Text.trim).filter (!·.isEmpty)

/-- Whether `c` belongs to the name at the front of an entry. -/
def isNameChar (c : Char) : Bool :=
  c.isAlphanum || c == '_' || c == '-'

/-- The column name at the front of an entry. -/
def leadingName (entry : String) : String :=
  String.ofList (entry.toList.takeWhile isNameChar)

/-- Whether a name is that of a described or a physical column, in any case. -/
def isIndexable (t : Table) (current : List PhysicalColumn) (name : String) : Bool :=
  t.columns.any (Text.sameName ·.name name) || current.any (Text.sameName ·.name name)

def checkEntry (t : Table) (current : List PhysicalColumn) (entry : String) :
    Except Error Unit :=
  let name := leadingName entry
  if name.isEmpty then unknownColumn t entry
  else if isIndexable t current name then .ok ()
  else unknownColumn t name

def addIndex (t : Table) (current : List PhysicalColumn) (name columns : String)
    (unique : Bool) : Except Error Statement := do
  requireName t
  if Text.blank name then throw (.incomplete (.indexName t.name))
  let entries := indexEntries columns
  if entries.isEmpty then throw (.incomplete (.indexColumns name))
  entries.forM (checkEntry t current)
  pure ⟨"CREATE " ++ keywordIf unique "UNIQUE " ++ "INDEX " ++ Text.trim name ++ " ON " ++ t.name ++
    " (" ++ ", ".intercalate entries ++ ");", []⟩

end BoundSql.Schema
