/-! # Errors

An error names its cause; its wording is one function of the cause.
-/

namespace BoundSql

/-- The step of a conversation with the server that a call belongs to. -/
inductive Stage where
  | begin
  | prepare
  | bind
  | execute
  | fetch
  | commit
  | rollback
  | introspect
  deriving DecidableEq, Repr

def Stage.name : Stage → String
  | begin => "begin"
  | prepare => "prepare"
  | bind => "bind"
  | execute => "execute"
  | fetch => "fetch"
  | commit => "commit"
  | rollback => "rollback"
  | introspect => "introspect"

def Stage.all : List Stage :=
  [begin, prepare, bind, execute, fetch, commit, rollback, introspect]

/-- What a description lacks. -/
inductive Missing where
  | queryTable
  | tableName
  | engine (table : String)
  | columns (table : String)
  | columnType (column : String)
  | indexName (table : String)
  | indexColumns (index : String)
  | changes (table : String)
  deriving DecidableEq, Repr

def Missing.message : Missing → String
  | queryTable => "query descriptor has no table"
  | tableName => "table has no name"
  | engine table => "table '" ++ table ++ "' has no engine"
  | columns table => "table '" ++ table ++ "' has no columns"
  | columnType column => "column '" ++ column ++ "' has no type"
  | indexName table => "index on table '" ++ table ++ "' has no name"
  | indexColumns index => "index '" ++ index ++ "' has no columns"
  | changes table => "no changes requested for table '" ++ table ++ "'"

/-- Why no statement was made, or why it did not run. -/
inductive Error where
  | nothingStaged
  | unsupportedOperator (keyword : String)
  | invalidOperand (operator column : String)
  | emptyProjection
  | incomplete (missing : Missing)
  | missingLength (column type : String)
  | emptyTable (table : String)
  | unknownColumn (table column : String)
  | conflictingChange (column : String)
  | primaryKeyExists (table existing requested : String)
  | backend (stage : Stage) (reason : String)
  deriving DecidableEq, Repr

namespace Error

def message : Error → String
  | nothingStaged => "No statement staged; call build() or set_query() first"
  | unsupportedOperator keyword => "Unsupported condition operator '" ++ keyword ++ "'"
  | invalidOperand operator column =>
    "Invalid value for operator '" ++ operator ++ "' on column '" ++ column ++ "'"
  | emptyProjection => "Query descriptor has no selected columns"
  | incomplete missing => "Incomplete schema: " ++ missing.message
  | missingLength column type =>
    "Column '" ++ column ++ "' of type " ++ type ++ " requires a length"
  | emptyTable table => "Table '" ++ table ++ "' has no columns"
  | unknownColumn table column =>
    "Unknown column '" ++ column ++ "' on table '" ++ table ++ "'"
  | conflictingChange column =>
    "Column '" ++ column ++ "' cannot be dropped and altered at once"
  | primaryKeyExists table existing requested =>
    "Table '" ++ table ++ "' already has primary key '" ++ existing ++ "', cannot make '" ++
      requested ++ "' the key"
  | backend stage reason => "Backend error during " ++ stage.name ++ ": " ++ reason

def stage? : Error → Option Stage
  | backend stage _ => some stage
  | _ => none

end Error

end BoundSql
