import BoundSql.Binary64.Notation

/-! # JSON values

An object is the list of its members in order, repeated names included. An integer of 64 bits is
kept exactly; every other number is a double.
-/

namespace BoundSql

namespace Json

inductive Number where
  | integer (n : Int)
  | float (x : Binary64)
  deriving DecidableEq, Repr

end Json

inductive Json where
  | null
  | bool (b : Bool)
  | number (n : Json.Number)
  | string (s : String)
  | array (items : List Json)
  | object (members : List (String × Json))
  deriving Repr, Inhabited

namespace Json

def ofNat (n : Nat) : Json :=
  .number (.integer n)

def ofInt (n : Int) : Json :=
  .number (.integer n)

/-- A number as JSON; what is not finite has no number and is written as null. -/
def ofFloat (x : Binary64) : Json :=
  if x.isFinite then .number (.float x) else .null

def ofStrings (texts : List String) : Json :=
  .array (texts.map .string)

/-- A text, or null for none. -/
def ofString? : Option String → Json
  | some s => .string s
  | none => .null

end Json

end BoundSql
