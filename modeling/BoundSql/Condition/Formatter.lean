import BoundSql.Attempt
import BoundSql.Condition.Basic
import BoundSql.Condition.Bindings

/-! # Formatting conditions

A condition on a column becomes a text in parentheses with a placeholder for each value of its
operand. The values are bound while the text is made. A group binds on a list of its own first, so
that it binds nothing where one of its members has no text.
-/

namespace BoundSql

/-- A text in the making, with the values bound for it. -/
abbrev Formatter := Attempt Bindings

namespace Formatter

def enclosed (text : String) : String :=
  "(" ++ text ++ ")"

def supply (v : Value) : Formatter PUnit :=
  modify fun b => (b.push v).2

/-- A test for null, which takes any operand and binds none of it. -/
def nullTest (column : String) (op : Operator) : String :=
  enclosed (column ++ " " ++ op.sql)

/-- A column between two bounds; another operand is refused with `misfit`. -/
def interval (column : String) (misfit : Error) : Operand → Formatter String
  | .range low high => do
    supply low
    supply high
    pure (enclosed (column ++ " BETWEEN ? AND ?"))
  | _ => throw misfit

/-- A column among values, of which there has to be one at least. -/
def membership (column : String) (op : Operator) (misfit : Error) : Operand → Formatter String
  | .list [] => throw misfit
  | .list vs => do
    vs.forM supply
    let marks := ",".intercalate (vs.map fun _ => "?")
    pure (enclosed (column ++ " " ++ op.sql ++ " (" ++ marks ++ ")"))
  | .scalar v => do
    supply v
    pure (enclosed (column ++ " " ++ op.sql ++ " (?)"))
  | .range _ _ => throw misfit

def comparison (column : String) (op : Operator) (v : Value) : Formatter String := do
  supply v
  pure (column ++ " " ++ op.sql ++ " ?")

/-- A column compared with each value; one of the comparisons has to hold. -/
def comparisons (column : String) (op : Operator) (misfit : Error) : Operand → Formatter String
  | .scalar v => do pure (enclosed (← comparison column op v))
  | .list [] => throw misfit
  | .list vs => do pure (enclosed (" OR ".intercalate (← vs.mapM (comparison column op))))
  | .range _ _ => throw misfit

/-- The text of an operator with its operand. -/
def operation (column : String) (op : Operator) (misfit : Error) (operand : Operand) :
    Formatter String :=
  match op with
  | .isNull | .isNotNull => pure (nullTest column op)
  | .between => interval column misfit operand
  | .among | .notAmong => membership column op misfit operand
  | _ => comparisons column op misfit operand

def condition (column : String) (c : Condition) : Formatter String :=
  match Operator.ofKeyword? c.operator with
  | none => throw (.unsupportedOperator c.operator)
  | some op => operation column op (.invalidOperand c.operator column) c.operand

def predicate (p : Predicate) : Formatter String :=
  condition p.column p.condition

/-- One text that holds where one of its members does; an empty group has none. -/
def group (ps : List Predicate) : Formatter (Option String) :=
  if ps.isEmpty then pure none
  else do
    let (texts, scratch) := (ps.mapM predicate).run .empty
    let texts ← MonadExcept.ofExcept texts
    scratch.values.forM supply
    pure (some (enclosed (" OR ".intercalate texts)))

end Formatter

namespace Bindings

/-- A step on a list of bindings. -/
inductive Step where
  | format (column : String) (c : Condition)
  | formatGroup (group : List Predicate)
  | push (v : Value)
  | clear

inductive Outcome where
  | text (s : String)
  | position (n : Nat)
  | nothing
  deriving DecidableEq, Repr

def Outcome.ofText? : Option String → Outcome
  | some s => text s
  | none => nothing

def run (b : Bindings) : Step → Except Error Outcome × Bindings
  | .format column c =>
    let (result, b) := (Formatter.condition column c).run b
    (result.map .text, b)
  | .formatGroup group =>
    let (result, b) := (Formatter.group group).run b
    (result.map .ofText?, b)
  | .push v =>
    let (position, b) := b.push v
    (.ok (.position position), b)
  | .clear => (.ok .nothing, empty)

end Bindings

end BoundSql
