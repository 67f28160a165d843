import BoundSql.Attempt
import BoundSql.Query.Build
import BoundSql.Schema.Operation
import BoundSql.Session.Backend
import BoundSql.Text.Word

/-! # Sessions

A session owns a server and stages one statement at a time. Running the staged statement is a
conversation with the server, which ends at the first call that fails. A failure rolls back the open
transaction and keeps the staged statement; a success clears it.
-/

namespace BoundSql

/-- A session over a server with states of type `σ`. -/
structure Session (σ : Type) where
  server : σ
  query : Option String := none
  binds : List Value := []
  log : List String := []
  deriving Repr

namespace Session

variable {σ : Type}

/-- The keywords of statements without a result to fetch. -/
def silentKeywords : List String :=
  ["DROP", "CREATE", "ALTER", "DELETE"]

/-- Whether a text starts with a word, in any case, that ends where the word does. -/
def startsWithWord (word : String) (cs : List Char) : Bool :=
  let size := word.length
  String.ofList ((cs.take size).map Char.toUpper) == word &&
    match cs.drop size with
    | [] => true
    | c :: _ => !Text.isWord c

/-- Whether a statement gives rows: it does not start, after blanks, with one of the keywords. -/
def givesRows (sql : String) : Bool :=
  let cs := sql.toList.dropWhile Text.isBlank
  !silentKeywords.any (startsWithWord · cs)

def stage (st : Statement) (s : Session σ) : Session σ :=
  { s with query := some st.sql, binds := st.binds }

def setQuery (sql : String) (s : Session σ) : Session σ :=
  { s with query := some sql }

def setBinds (binds : List Value) (s : Session σ) : Session σ :=
  { s with binds }

def clear (s : Session σ) : Session σ :=
  { s with query := none, binds := [] }

/-- The staged text with its values in place. -/
def rendered (s : Session σ) : Option String :=
  s.query.map fun sql => Statement.render ⟨sql, s.binds⟩

/-- Stages the statement of a query; a query without one changes nothing. -/
def build (q : Query) (delete : Bool) : Attempt (Session σ) PUnit := do
  let st ← MonadExcept.ofExcept (q.build delete)
  modify (stage st)

variable (backend : Backend σ)

def perform (c : Call) : Attempt (Session σ) Reply := fun s =>
  match backend.call c s.server with
  | (.ok reply, server) => (.ok reply, { s with server })
  | (.error reason, server) => (.error (.backend c.stage reason), { s with server })

def act (c : Call) : Attempt (Session σ) PUnit := do
  let _ ← perform backend c

def begin : Attempt (Session σ) PUnit :=
  act backend .begin

def commit : Attempt (Session σ) PUnit :=
  act backend .commit

def rollback : Attempt (Session σ) PUnit :=
  act backend .rollback

/-- The rows of the statement that has been executed. -/
def fetch : Attempt (Session σ) (List Row) := do
  pure (← perform backend .fetch).rows?

def isOpen (s : Session σ) : Bool :=
  backend.inTransaction s.server

/-- Rolls back the open transaction, if there is one; that this fails too changes nothing. -/
def abandon : Attempt (Session σ) PUnit := do
  if isOpen backend (← get) then
    try rollback backend catch _ => pure ()

/-- Runs a statement. A conversation that opens the transaction also commits it. -/
def converse (st : Statement) (owns : Bool) : Attempt (Session σ) (List Row) := do
  if owns then begin backend
  act backend (.prepare st.sql)
  (Bindings.mk st.binds).numbered.forM fun (position, v) => act backend (.bind position v)
  act backend .execute
  let rows ← if givesRows st.sql then fetch backend else pure []
  if owns then commit backend
  pure rows

/-- The session after its statement has run. -/
def finish (rendered : String) (s : Session σ) : Session σ :=
  clear { s with log := s.log ++ [rendered] }

/-- The statement to run; a blank text is none. -/
def staged? (s : Session σ) : Option Statement :=
  match s.query with
  | some sql => if Text.blank sql then none else some ⟨sql, s.binds⟩
  | none => none

def execute : Attempt (Session σ) (List Row) := do
  let s ← get
  match s.staged? with
  | none => throw .nothingStaged
  | some st =>
    try
      let rows ← converse backend st (!isOpen backend s)
      modify (finish st.render)
      pure rows
    catch e =>
      abandon backend
      throw e

/-- Runs statements in order up to the first that fails, and gives the rows of the last. -/
def runAll (statements : List Statement) : Attempt (Session σ) (List Row) :=
  statements.foldlM (fun _ st => do
    modify (stage st)
    execute backend) []

def describe (table : String) : Attempt (Session σ) (List PhysicalColumn) := do
  pure (← perform backend (.introspect table)).columns?

/-- The columns that an operation needs to know. -/
def inspect (operation : Schema.Operation) (t : Table) :
    Attempt (Session σ) (List PhysicalColumn) :=
  if operation.needsIntrospection then describe backend t.name else pure []

/-- The statements of an operation, without running them, and the table after it. -/
def plan (operation : Schema.Operation) (t : Table) :
    Attempt (Session σ) (List Statement × Table) := do
  let current ← inspect backend operation t
  MonadExcept.ofExcept (operation.statements t current)

/-- Runs the statements of an operation. The table has its key recorded once there are
statements, whether or not they run. -/
def apply (operation : Schema.Operation) (t : Table) (s : Session σ) :
    Except Error (List Row) × Table × Session σ :=
  match (plan backend operation t).run s with
  | (.error e, s) => (.error e, t, s)
  | (.ok (statements, t), s) =>
    let (result, s) := (runAll backend statements).run s
    (result, t, s)

def create (mode : Schema.CreateMode) (t : Table) (s : Session σ) :
    Except Error (List Row) × Table × Session σ :=
  match Schema.create t mode with
  | .error e => (.error e, t, s)
  | .ok (statements, t) =>
    let (result, s) := (runAll backend statements).run s
    (result, t, s)

def alter (t : Table) : Attempt (Session σ) (List Row) := do
  let current ← describe backend t.name
  let st ← MonadExcept.ofExcept (Schema.alter t current)
  runAll backend [st]

def addIndex (t : Table) (name columns : String) (unique : Bool) :
    Attempt (Session σ) PUnit := do
  let current ← describe backend t.name
  let st ← MonadExcept.ofExcept (Schema.addIndex t current name columns unique)
  let _ ← runAll backend [st]

end Session

end BoundSql
