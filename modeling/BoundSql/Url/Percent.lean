import BoundSql.Text.Blank
import BoundSql.Text.Digits
import BoundSql.Text.Utf8

/-! # Percent-encoding

A percent sign with two digits of base sixteen behind it stands for one byte; every other percent
sign stands for itself. A query is a list of pairs in this encoding, with a plus for a space.
-/

namespace BoundSql.Url

def byteOfDigits? (high low : UInt8) : Option UInt8 := do
  let high ← Text.hexValue (Char.ofUInt8 high)
  let low ← Text.hexValue (Char.ofUInt8 low)
  pure (UInt8.ofNat (16 * high + low))

/-- The bytes that an encoding stands for. -/
def percentDecode : List UInt8 → List UInt8
  | [] => []
  | [b] => [b]
  | [b, c] => [b, c]
  | b :: high :: low :: rest =>
    match if b = 0x25 then byteOfDigits? high low else none with
    | some byte => byte :: percentDecode rest
    | none => b :: percentDecode (high :: low :: rest)

/-- The text that an encoded text stands for. -/
def decodeText (s : String) : Except Text.Utf8.Flaw String :=
  Text.Utf8.strict (percentDecode (Text.Utf8.encode s))

def decodeFormText (cs : List Char) : String :=
  let spaced := cs.map fun c => if c = '+' then ' ' else c
  Text.Utf8.lenient (percentDecode (Text.Utf8.encode (String.ofList spaced)))

/-- A pair: all before the first equals sign, and all behind it. -/
def pairOf (cs : List Char) : String × String :=
  (decodeFormText (cs.takeWhile (· ≠ '=')), decodeFormText ((cs.dropWhile (· ≠ '=')).drop 1))

def pairs (query : String) : List (String × String) :=
  ((Text.splitChars '&' query.toList).filter (!·.isEmpty)).map pairOf

end BoundSql.Url
