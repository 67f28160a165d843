import BoundSql.Binary64.Notation
import BoundSql.Json.Value
import BoundSql.Text.Digits
import BoundSql.Text.Literal
import BoundSql.Text.Utf8

/-! # SQL values

A value reaches the server as a bound parameter. Its inline form stands in rendered statements
only, which are written for people to read.
-/

namespace BoundSql

/-- A value that a placeholder can be bound to. -/
inductive Value where
  | null
  | bool (b : Bool)
  | int (n : Int64)
  | float (x : Binary64)
  | text (s : String)
  | blob (bytes : List UInt8)
  deriving DecidableEq, Repr, Inhabited

namespace Value

/-- The value spelled as a piece of a statement. -/
def inline : Value → String
  | null => "NULL"
  | bool true => "TRUE"
  | bool false => "FALSE"
  | int n => toString n.toInt
  | float x => x.plain
  | text s => Text.quoteWith '\'' s
  | blob bytes => String.ofList ('X' :: '\'' :: bytes.flatMap Text.hexByte ++ ['\''])

/-- The value as text; null has none, and bytes are decoded leniently. -/
def toText : Value → Option String
  | null => none
  | bool true => some "true"
  | bool false => some "false"
  | int n => some (toString n.toInt)
  | float x => some x.plain
  | text s => some s
  | blob bytes => some (Text.Utf8.lenient bytes)

def isNull : Value → Bool
  | null => true
  | _ => false

/-- The JSON form: a blob is the array of its bytes, every other kind stands for itself. -/
def toJson : Value → Json
  | null => .null
  | bool b => .bool b
  | int n => .ofInt n.toInt
  | float x => .ofFloat x
  | text s => .string s
  | blob bytes => .array (bytes.map fun b => .ofNat b.toNat)

def byteOfJson? : Json → Option UInt8
  | .number (.integer n) => if 0 ≤ n ∧ n < 256 then some (UInt8.ofNat n.toNat) else none
  | _ => none

/-- Whether 64 bits with a sign hold `n`. -/
def fitsInt64 (n : Int) : Bool :=
  -2 ^ 63 ≤ n && n < 2 ^ 63

/-- The value of a JSON form. An integer that 64 bits with a sign do not hold becomes a double. -/
def ofJson? : Json → Option Value
  | .null => some null
  | .bool b => some (bool b)
  | .number (.integer n) => some (if fitsInt64 n then int (Int64.ofInt n) else float (.ofInt n))
  | .number (.float x) => some (float x)
  | .string s => some (text s)
  | .array items => (items.mapM byteOfJson?).map blob
  | .object _ => none

/-- A value that may be missing. -/
def ofOption : Option Value → Value
  | some v => v
  | none => null

end Value

end BoundSql
