import BoundSql.Error
import BoundSql.Table.Physical

/-! # Backends

A backend answers the calls of a session one at a time and has a state of its own, which says
whether a transaction is open. The scripted backend keeps everything in memory and fails where its
script says so.
-/

namespace BoundSql

/-- A call to the server. -/
inductive Call where
  | begin
  | prepare (sql : String)
  | bind (position : Nat) (v : Value)
  | execute
  | fetch
  | commit
  | rollback
  | introspect (table : String)
  deriving DecidableEq, Repr

def Call.stage : Call → Stage
  | begin => .begin
  | prepare _ => .prepare
  | bind _ _ => .bind
  | execute => .execute
  | fetch => .fetch
  | commit => .commit
  | rollback => .rollback
  | introspect _ => .introspect

/-- The answer to a call that succeeds. -/
inductive Reply where
  | done
  | rows (rows : List Row)
  | columns (columns : List PhysicalColumn)
  deriving DecidableEq, Repr

def Reply.rows? : Reply → List Row
  | rows rs => rs
  | _ => []

def Reply.columns? : Reply → List PhysicalColumn
  | columns cs => cs
  | _ => []

/-- A server with states of type `σ`: what it answers to a call, or why it fails. -/
structure Backend (σ : Type) where
  call : Call → σ → Except String Reply × σ
  inTransaction : σ → Bool

/-- The state of a backend in memory. -/
structure Scripted where
  /-- The stages that fail, each after so many calls that succeed. -/
  failures : List (Stage × Nat) := []
  /-- Whether a commit or a rollback closes the transaction even when it fails. -/
  closes : Bool := false
  rows : List Row := []
  physical : List (String × List PhysicalColumn) := []
  isOpen : Bool := false
  done : List Call := []
  deriving Repr

namespace Scripted

/-- Counts a call of a stage against the first failure that the script has for it; nothing if the
call does not fail, and in any case the script that remains. -/
def takeFailure (stage : Stage) : List (Stage × Nat) → Bool × List (Stage × Nat)
  | [] => (false, [])
  | (s, skip) :: rest =>
    if s = stage then
      match skip with
      | 0 => (true, rest)
      | n + 1 => (false, (s, n) :: rest)
    else
      let (fails, rest) := takeFailure stage rest
      (fails, (s, skip) :: rest)

/-- Whether a transaction is open after a call. -/
def openAfter (c : Call) (fails : Bool) (s : Scripted) : Bool :=
  match c with
  | .begin => s.isOpen || !fails
  | .commit => s.isOpen && fails && !s.closes
  | .rollback => s.isOpen && fails && !s.closes
  | _ => s.isOpen

/-- The answer to a call that succeeds; a table that is not there has no columns. -/
def reply (s : Scripted) : Call → Reply
  | .fetch => .rows s.rows
  | .introspect table => .columns ((s.physical.lookup table).getD [])
  | _ => .done

def call (c : Call) (s : Scripted) : Except String Reply × Scripted :=
  let (fails, failures) := takeFailure c.stage s.failures
  let isOpen := s.openAfter c fails
  if fails then
    (.error ("injected failure at " ++ c.stage.name), { s with failures, isOpen })
  else (.ok (s.reply c), { s with failures, isOpen, done := s.done ++ [c] })

def backend : Backend Scripted where
  call := call
  inTransaction := isOpen

def describe (s : Scripted) (table : String) (columns : List PhysicalColumn) : Scripted :=
  { s with physical := (table, columns) :: s.physical }

end Scripted

end BoundSql
