/-! # Digits

The values of digits in base ten and in base sixteen, and the digits of base sixteen themselves.
-/

-- The powers of a base are the core library's, also next to libraries that have their own.
attribute [instance (high), default_instance (high + 1)] instPowNat

namespace BoundSql.Text

def decimalValue (digits : List Char) : Nat :=
  digits.foldl (fun n c => 10 * n + (c.toNat - '0'.toNat)) 0

def hexValue (c : Char) : Option Nat :=
  if c.isDigit then some (c.toNat - '0'.toNat)
  else if 'a' ≤ c && c ≤ 'f' then some (c.toNat - 'a'.toNat + 10)
  else if 'A' ≤ c && c ≤ 'F' then some (c.toNat - 'A'.toNat + 10)
  else none

/-- The last digit of `n` in base sixteen, a small letter from ten on. -/
def hexDigit (n : Nat) : Char :=
  Nat.digitChar (n % 16)

def hexByte (b : UInt8) : List Char :=
  [(hexDigit (b.toNat / 16)).toUpper, (hexDigit b.toNat).toUpper]

end BoundSql.Text
