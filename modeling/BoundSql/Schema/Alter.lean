import BoundSql.Schema.Create
import BoundSql.Table.Physical

/-! # ALTER TABLE

One statement carries out the drops, the changes and the additions of a table, in this order.
Every column that it names is looked up in the physical table first.
-/

namespace BoundSql.Schema

/-- What is written about a changed column; every part has been settled. -/
structure ColumnChange where
  oldName : String
  newName : String
  type : String
  unsigned : Bool
  notNull : Toggle
  autoIncrement : Bool
  zerofill : Toggle
  default : Setting DefaultValue
  onUpdate : Option String
  comment : Setting String
  deriving DecidableEq, Repr

/-- The text of each state of a toggle. -/
def toggleText (on off : String) : Toggle → String
  | .unset => ""
  | .on => on
  | .off => off

def settingText {α : Type} (keyword : String) (write : α → String) (cleared : String) :
    Setting α → String
  | .unset => ""
  | .set a => keyword ++ write a
  | .clear => cleared

def ColumnChange.sql (c : ColumnChange) : String :=
  "CHANGE COLUMN " ++ c.oldName ++ " " ++ c.newName ++ " " ++ c.type ++
  keywordIf c.unsigned " unsigned" ++
  toggleText " NOT NULL" " NULL" c.notNull ++
  keywordIf c.autoIncrement " AUTO_INCREMENT" ++
  toggleText " ZEROFILL" " DROP ZEROFILL" c.zerofill ++
  settingText " DEFAULT " DefaultValue.sql " DROP DEFAULT" c.default ++
  optionText " ON UPDATE " id c.onUpdate ++
  settingText " COMMENT " (Text.quoteWith '"') " COMMENT \"\"" c.comment

inductive AlterClause where
  | drop (column : String)
  | change (c : ColumnChange)
  | add (clause : Clause)
  deriving DecidableEq, Repr

def AlterClause.sql : AlterClause → String
  | drop column => "DROP COLUMN " ++ column
  | change c => c.sql
  | add clause => "ADD " ++ clause.sql

/-- Requires that a dropped column exists and is not changed at once. -/
def checkDrop (t : Table) (current : List PhysicalColumn) (name : String) :
    Except Error Unit :=
  if t.alteredColumns.any fun c => Text.sameName c.name name then
    .error (.conflictingChange name)
  else if (PhysicalColumn.find? current name).isNone then unknownColumn t name
  else .ok ()

/-- The change of a column from what it is. A change without a type keeps the type it has. -/
def changeFrom (c : Column) (info : PhysicalColumn) : Except Error ColumnChange := do
  let type ← if c.type.isSome then typeText c else pure info.type
  pure {
    oldName := info.name
    newName := c.renameTo.getD c.name
    type
    unsigned := c.unsigned == .on && !Text.mentions (Text.lower type) "unsigned"
    notNull := c.notNull
    autoIncrement := c.autoIncrement == .on
    zerofill := c.zerofill
    default := c.default
    onUpdate := c.onUpdate
    comment := c.comment }

def change (t : Table) (current : List PhysicalColumn) (c : Column) :
    Except Error ColumnChange :=
  match PhysicalColumn.find? current c.name with
  | none => unknownColumn t c.name
  | some info => changeFrom c info

/-- The key that the physical table has. -/
def existingKey (current : List PhysicalColumn) : Option String :=
  (current.find? PhysicalColumn.isPrimaryKey).map (·.name)

/-- The key before the additions. A table with a key keeps it, and may only ask for the same. -/
def keyBefore (t : Table) (existing : Option String) : Except Error (Option String) :=
  match existing, declaredKey t with
  | some e, some d =>
    if Text.sameName e d then .ok (some e) else .error (.primaryKeyExists t.name e d)
  | some e, none => .ok (some e)
  | none, declared => .ok declared

/-- Whether a column is in the physical table or among those to add. -/
def isKnown (t : Table) (current : List PhysicalColumn) (name : String) : Bool :=
  (PhysicalColumn.find? current name).isSome || (t.column? name).isSome

def requireKnown (t : Table) (current : List PhysicalColumn) (names : List String) :
    Except Error Unit :=
  match names.find? fun name => !isKnown t current name with
  | some name => unknownColumn t name
  | none => .ok ()

/-- The key that the statement adds: none to a table that has one. -/
def addedKey : (existing key : Option String) → Option String
  | none, key => key
  | some _, _ => none

def alterClauses (t : Table) (current : List PhysicalColumn) :
    Except Error (List AlterClause) := do
  requireName t
  if current.isEmpty then throw (.emptyTable t.name)
  t.droppedColumns.forM (checkDrop t current)
  let changes ← t.alteredColumns.mapM (change t current)
  let existing := existingKey current
  let (columns, key) ← defineAll t.columns (← keyBefore t existing)
  let added := addedKey existing key
  requireKnown t current added.toList
  requireKnown t current (t.foreignKeys.map (·.column))
  let additions := columns.map .column ++ keyClause added ++ t.foreignKeys.map .foreignKey
  pure (t.droppedColumns.map .drop ++ changes.map .change ++ additions.map .add)

/-- The statement that alters a table; asking for nothing is an error. -/
def alter (t : Table) (current : List PhysicalColumn) : Except Error Statement := do
  let clauses ← alterClauses t current
  if clauses.isEmpty then throw (.incomplete (.changes t.name))
  pure ⟨"ALTER TABLE " ++ t.name ++ " " ++ ", ".intercalate (clauses.map AlterClause.sql) ++ ";",
    []⟩

end BoundSql.Schema
