import BoundSql.CommandLine.Grammar
import BoundSql.Connection.Config
import BoundSql.Schema.Create

/-! # Invocations

An invocation is a task with the settings that the options in front of it change. The faults of the
task's own words come before those of the environment.
-/

namespace BoundSql.CommandLine

/-- What the program is asked to do. -/
inductive Task where
  | select (resource : String) (delete execute : Bool)
  | create (table : String) (ifNotExists dropIfExists dryRun : Bool)
  | alter (table : String) (dryRun : Bool)
  | index (table name columns : String) (unique dryRun : Bool)
  | describe (table : String)
  deriving DecidableEq, Repr

/-- The settings that options or the environment change. -/
structure Overrides where
  host : Option String := none
  port : Option UInt16 := none
  database : Option String := none
  user : Option String := none
  password : Option String := none
  timeoutSecs : Option UInt64 := none
  logQueries : Bool := false
  deriving DecidableEq, Repr

structure Invocation where
  task : Task
  /-- The file with the settings that the overrides change. -/
  config : Option String := none
  overrides : Overrides := {}
  verbose : Bool := false
  deriving DecidableEq, Repr

namespace Overrides

/-- The settings with the overrides in place. -/
def apply (o : Overrides) (c : ConnectionConfig) : ConnectionConfig where
  host := o.host.getD c.host
  port := o.port.getD c.port
  database := o.database.getD c.database
  user := o.user.getD c.user
  password := o.password.getD c.password
  timeoutSecs := o.timeoutSecs.getD c.timeoutSecs
  logQueries := o.logQueries || c.logQueries

def ofGiven (given : Given) : Overrides where
  host := given.text? "host"
  port := (given.number? "port").map .ofNat
  database := given.text? "database"
  user := given.text? "user"
  password := given.text? "password"
  timeoutSecs := (given.number? "timeout").map .ofNat
  logQueries := given.has "log-queries"

end Overrides

/-- How a task is given on the command line. -/
structure TaskForm where
  name : String
  grammar : Grammar
  build : Given → Task

def helpFlag : Argument :=
  { name := "help", form := .help, short := some 'h' }

def flag (name : String) : Argument :=
  { name, form := .flag }

def fileOperand (name : String) : Argument :=
  { name, form := .path, required := true }

/-- The text of an argument that has been given. -/
def Given.text (given : Given) (name : String) : String :=
  (given.text? name).getD ""

namespace TaskForm

def select : TaskForm where
  name := "select"
  grammar := {
    operand := some (fileOperand "resource")
    options := [flag "delete", { flag "execute" with short := some 'e' }, helpFlag] }
  build given := .select (given.text "resource") (given.has "delete") (given.has "execute")

def create : TaskForm where
  name := "create"
  grammar := {
    operand := some (fileOperand "table")
    options := [flag "if-not-exists", flag "drop-if-exists", flag "dry-run", helpFlag]
    exclusive := [("if-not-exists", "drop-if-exists")] }
  build given := .create (given.text "table") (given.has "if-not-exists")
    (given.has "drop-if-exists") (given.has "dry-run")

def alter : TaskForm where
  name := "alter"
  grammar := {
    operand := some (fileOperand "table")
    options := [flag "dry-run", helpFlag] }
  build given := .alter (given.text "table") (given.has "dry-run")

def index : TaskForm where
  name := "index"
  grammar := {
    operand := some (fileOperand "table")
    options := [
      { name := "name", form := .text, short := some 'n', required := true },
      { name := "columns", form := .text, required := true },
      flag "unique", flag "dry-run", helpFlag] }
  build given := .index (given.text "table") (given.text "name") (given.text "columns")
    (given.has "unique") (given.has "dry-run")

/-- The operand of this task names a table of the server and may be any text. -/
def describe : TaskForm where
  name := "describe"
  grammar := {
    operand := some { name := "table", form := .text, required := true }
    options := [helpFlag] }
  build given := .describe (given.text "table")

def all : List TaskForm :=
  [select, create, alter, index, describe]

end TaskForm

/-- The command that shows the help of another. -/
def helpCommand : String := "help"

def commandNames : List String :=
  TaskForm.all.map (·.name) ++ [helpCommand]

def grammar : Grammar where
  commands := commandNames
  options := [
    { name := "config", form := .path, short := some 'c' },
    { name := "host", form := .text, environment := some "MYSQL_HOST" },
    { name := "port", form := .port, environment := some "MYSQL_PORT" },
    { name := "database", form := .text, short := some 'd', environment := some "MYSQL_DATABASE" },
    { name := "user", form := .text, short := some 'u', environment := some "MYSQL_USER" },
    { name := "password", form := .text, environment := some "MYSQL_PASSWORD" },
    { name := "timeout", form := .seconds },
    flag "log-queries",
    { flag "verbose" with short := some 'v' },
    helpFlag,
    { name := "version", form := .version, short := some 'V' }]

/-- The outcome of the help command; a command to be shown has no commands of its own. -/
def help : List String → UsageError
  | [] => .helpRequested
  | [name] => if commandNames.contains name then .helpRequested else .unknownCommand
  | _ => .unknownCommand

def readTask (name : String) (words : List String) : Except UsageError Task :=
  match TaskForm.all.find? (·.name == name) with
  | some form => form.build <$> form.grammar.readAll words
  | none => .error (help words)

namespace Invocation

/-- Reads a command line. The environment supplies the options that no word gives. -/
def parse (environment : String → Option String) (words : List String) :
    Except UsageError Invocation := do
  let (p, command) ← grammar.readWords {} words
  let task ← command.mapM fun (name, rest) => readTask name rest
  let given ← grammar.completeFrom environment (← p.settle).given
  match task with
  | none => throw (if given.entries.isEmpty then .nothingGiven else .missingCommand)
  | some task =>
    pure {
      task
      config := given.text? "config"
      overrides := .ofGiven given
      verbose := given.has "verbose" }

end Invocation

/-- How a table is created. When a table is dropped first, whether it exists no longer matters. -/
def createMode (ifNotExists dropIfExists : Bool) : Schema.CreateMode :=
  if dropIfExists then .dropIfExists else if ifNotExists then .ifNotExists else .plain

end BoundSql.CommandLine
