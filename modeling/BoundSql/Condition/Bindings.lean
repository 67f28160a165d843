import BoundSql.Value

/-! # Bindings

The values for the placeholders of a statement, in the order of their binding. Positions count from
one.
-/

namespace BoundSql

/-- The values bound so far. -/
structure Bindings where
  values : List Value
  deriving DecidableEq, Repr

namespace Bindings

def empty : Bindings := ⟨[]⟩

def size (b : Bindings) : Nat :=
  b.values.length

def nextPosition (b : Bindings) : Nat :=
  b.size + 1

def numbered (b : Bindings) : List (Nat × Value) :=
  (b.values.zipIdx 1).map fun (v, position) => (position, v)

def push (b : Bindings) (v : Value) : Nat × Bindings :=
  (b.nextPosition, ⟨b.values ++ [v]⟩)

end Bindings

end BoundSql
