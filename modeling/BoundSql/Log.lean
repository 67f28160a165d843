import BoundSql.Statement

/-! # Log records

A record has a level, a message and named fields. Its line shows the level in five columns, then the
message, then each field with its value.
-/

namespace BoundSql.Log

inductive Level where
  | info
  | debug
  deriving DecidableEq, Repr

def Level.name : Level → String
  | info => "INFO"
  | debug => "DEBUG"

structure Record where
  level : Level
  message : String
  fields : List (String × String) := []
  deriving DecidableEq, Repr

namespace Record

def queryExecuted (sql : String) : Record :=
  ⟨.info, "query executed", [("sql", sql)]⟩

def dryRun : Record :=
  ⟨.info, "Dry run mode - SQL will be printed but not executed.", []⟩

def statementBuilt (st : Statement) : Record :=
  ⟨.debug, "built statement", [("sql", st.sql), ("binds", toString st.binds.length)]⟩

/-- The statement that creates a table. -/
def tableGenerated (table sql : String) : Record :=
  ⟨.debug, "generated create table", [("table", table), ("sql", sql)]⟩

def line (r : Record) : String :=
  let level := r.level.name
  String.ofList (List.replicate (5 - level.length) ' ') ++ level ++ " " ++ r.message ++
    String.join (r.fields.map fun (name, value) => " " ++ name ++ "=" ++ value)

end Record

end BoundSql.Log
