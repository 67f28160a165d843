import BoundSql.Value

/-! # Statements

A statement is SQL text with a placeholder `?` for each bound value. Its rendering puts the inline
form of the values, in order, in place of the placeholders; it is for people to read.
-/

namespace BoundSql

structure Statement where
  sql : String
  binds : List Value := []
  deriving DecidableEq, Repr

namespace Statement

/-- The text with its placeholders replaced, in order, while there are values left. -/
def renderChars : List Char → List Value → List Char
  | [], _ => []
  | c :: cs, vs =>
    if c = '?' then
      match vs with
      | [] => '?' :: renderChars cs []
      | v :: vs => v.inline.toList ++ renderChars cs vs
    else c :: renderChars cs vs

theorem renderChars_of_ne {c : Char} (hc : c ≠ '?') (cs : List Char) (vs : List Value) :
    renderChars (c :: cs) vs = c :: renderChars cs vs := by
  rw [renderChars.eq_def]
  exact if_neg hc

/-- The text for people, with the values in place. -/
def render (s : Statement) : String :=
  String.ofList (renderChars s.sql.toList s.binds)

/-- The JSON line that a dry run prints. -/
def toJson (s : Statement) : Json :=
  .object [("sql", .string s.sql), ("binds", .array (s.binds.map Value.toJson))]

end Statement

end BoundSql
