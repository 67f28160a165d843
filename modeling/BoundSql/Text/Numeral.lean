import BoundSql.Text.Digits

/-! # Numerals

A numeral is a run of decimal digits with an optional sign in front. It is read from the left, so
a number that grows too large is refused before a stray character behind it.
-/

namespace BoundSql.Text

inductive NumeralError where
  | empty
  | strayCharacter
  | tooLarge
  | tooSmall
  deriving DecidableEq, Repr

def NumeralError.message : NumeralError → String
  | empty => "cannot parse integer from empty string"
  | strayCharacter => "invalid digit found in string"
  | tooLarge => "number too large to fit in target type"
  | tooSmall => "number too small to fit in target type"

namespace Numeral

/-- Reads digits behind a number `n`, up to `bound`. -/
def digits (bound : Nat) (overflow : NumeralError) : (n : Nat) → List Char →
    Except NumeralError Nat
  | n, [] => .ok n
  | n, c :: cs =>
    if c.isDigit then
      let n := 10 * n + (c.toNat - '0'.toNat)
      if n ≤ bound then digits bound overflow n cs else .error overflow
    else .error .strayCharacter

/-- Reads the digits behind a sign, of which there is at least one. -/
def someDigits (bound : Nat) (overflow : NumeralError) (cs : List Char) :
    Except NumeralError Nat :=
  if cs.isEmpty then .error .strayCharacter else digits bound overflow 0 cs

/-- A number of `bits` bits without a sign; only a plus may stand in front. -/
def unsigned (bits : Nat) (s : String) : Except NumeralError Nat :=
  match s.toList with
  | [] => .error .empty
  | '+' :: cs => someDigits (2 ^ bits - 1) .tooLarge cs
  | cs => digits (2 ^ bits - 1) .tooLarge 0 cs

def signed (bits : Nat) (s : String) : Except NumeralError Int :=
  match s.toList with
  | [] => .error .empty
  | '+' :: cs => (fun n : Nat => (n : Int)) <$> someDigits (2 ^ (bits - 1) - 1) .tooLarge cs
  | '-' :: cs => (fun n : Nat => -(n : Int)) <$> someDigits (2 ^ (bits - 1)) .tooSmall cs
  | cs => (fun n : Nat => (n : Int)) <$> digits (2 ^ (bits - 1) - 1) .tooLarge 0 cs

end Numeral

end BoundSql.Text
