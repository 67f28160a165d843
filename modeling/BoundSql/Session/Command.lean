import BoundSql.Session.Basic

/-! # Runs of a session

Everything a user can ask of a session is a command, so that a whole run is a list of them. Some
commands work on a table, which they may give back with its key recorded.
-/

namespace BoundSql

/-- A command that needs no table. -/
inductive Command where
  | build (q : Query) (delete : Bool)
  | stage (st : Statement)
  | setQuery (sql : String)
  | setBinds (binds : List Value)
  | clear
  | begin
  | commit
  | rollback
  | execute
  | describe (table : String)

/-- A command on a table. -/
inductive TableCommand where
  | create (mode : Schema.CreateMode)
  | plan (operation : Schema.Operation)
  | apply (operation : Schema.Operation)
  | alter
  | addIndex (name columns : String) (unique : Bool)

/-- What a command gives when it succeeds. -/
inductive Outcome where
  | nothing
  | rows (rows : List Row)
  | statements (statements : List Statement)
  | columns (columns : List PhysicalColumn)

namespace Session

variable {σ : Type} (backend : Backend σ)

def silent (x : Attempt (Session σ) PUnit) : Attempt (Session σ) Outcome := do
  x
  pure .nothing

def carryOut : Command → Attempt (Session σ) Outcome
  | .build q delete => silent (build q delete)
  | .stage st => silent (modify (stage st))
  | .setQuery sql => silent (modify (setQuery sql))
  | .setBinds binds => silent (modify (setBinds binds))
  | .clear => silent (modify clear)
  | .begin => silent (begin backend)
  | .commit => silent (commit backend)
  | .rollback => silent (rollback backend)
  | .execute => .rows <$> execute backend
  | .describe table => .columns <$> describe backend table

def run (s : Session σ) (c : Command) : Except Error Outcome × Session σ :=
  (carryOut backend c).run s

def runOn (t : Table) (s : Session σ) : TableCommand → Except Error Outcome × Table × Session σ
  | .create mode =>
    let (result, t, s) := create backend mode t s
    (result.map .rows, t, s)
  | .plan operation =>
    match (plan backend operation t).run s with
    | (.ok (statements, t), s) => (.ok (.statements statements), t, s)
    | (.error e, s) => (.error e, t, s)
  | .apply operation =>
    let (result, t, s) := apply backend operation t s
    (result.map .rows, t, s)
  | .alter =>
    let (result, s) := (alter backend t).run s
    (result.map .rows, t, s)
  | .addIndex name columns unique =>
    let (result, s) := (addIndex backend t name columns unique).run s
    (result.map fun _ => .nothing, t, s)

end Session

end BoundSql
