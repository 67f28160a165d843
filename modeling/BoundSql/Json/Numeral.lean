import BoundSql.Binary64.Scaled
import BoundSql.Json.Flaw
import BoundSql.Json.Value
import BoundSql.Text.Digits

/-! # Numerals

A numeral without a fraction and an exponent is an integer if 64 bits hold it. Every other one is a
double: its digits are taken in as long as they make an integer below `2^64`, and what is left only
scales that integer by a power of ten.
-/

namespace BoundSql.Json

open Text (decimalValue)

/-- Why a text breaks off inside a token: what a reader meets, and what a reader meets that only
skips the token. -/
structure Break where
  read : Defect
  skipped : Defect
  deriving DecidableEq, Repr

def Break.of (flaw : Flaw) (place : Place) : Break :=
  ⟨⟨flaw, place⟩, ⟨flaw, place⟩⟩

/-- A bad number. Where the text has ended, a reader misses the rest of a value. -/
def Break.inNumber (ended : Bool) (place : Place) : Break :=
  ⟨⟨if ended then .unfinishedValue else .badNumber, place⟩, ⟨.badNumber, place⟩⟩

structure Exponent where
  negative : Bool
  digits : List Char
  start : Nat
  deriving Repr

structure Numeral where
  negative : Bool
  whole : List Char
  fraction : List Char := []
  exponent : Option Exponent := none
  stop : Nat
  deriving Repr

namespace Numeral

/-- The integer that one more digit makes, if it is below `2^64`. -/
def grow? (m : Nat) (c : Char) : Option Nat :=
  let n := 10 * m + (c.toNat - '0'.toNat)
  if n < 2 ^ 64 then some n else none

/-- Takes in digits in front of the point; what does not fit is counted. -/
def takeWhole : (m : Nat) → List Char → Nat × Nat
  | m, [] => (m, 0)
  | m, c :: cs =>
    match grow? m c with
    | some n => takeWhole n cs
    | none => (m, cs.length + 1)

/-- Takes in digits behind the point and counts them; what does not fit is left away. -/
def takeFraction : (m : Nat) → List Char → Nat × Nat
  | m, [] => (m, 0)
  | m, c :: cs =>
    match grow? m c with
    | some n =>
      let (m, taken) := takeFraction n cs
      (m, taken + 1)
    | none => (m, 0)

/-- The largest exponent that is worked out. -/
def maxExponent : Nat := 2 ^ 31 - 1

/-- How many digits it takes to exceed the largest exponent, if they do; `e` is the value of the
`taken` digits so far. -/
def overrun? : (taken e : Nat) → List Char → Option Nat
  | _, _, [] => none
  | taken, e, c :: cs =>
    let e := 10 * e + (c.toNat - '0'.toNat)
    if maxExponent < e then some (taken + 1) else overrun? (taken + 1) e cs

def Exponent.value (e : Exponent) : Int :=
  if e.negative then -(decimalValue e.digits : Int) else decimalValue e.digits

/-- The double `±m · 10^scale`. -/
def double (negative : Bool) (m : Nat) (scale : Int) : Option Number := do
  let x ← (← Binary64.ofQuotient false m 1).scaled scale
  pure (.float (if negative then x.negated else x))

/-- The integer with the given sign, or a double if it is minus zero or 64 bits do not hold it. -/
def integer (negative : Bool) (m : Nat) : Option Number :=
  if !negative then some (.integer m)
  else if 0 < m ∧ m ≤ 2 ^ 63 then some (.integer (-(m : Int)))
  else double true m 0

def value (n : Numeral) : Except Defect Number :=
  let (whole, dropped) := takeWhole 0 n.whole
  let (m, taken) := takeFraction whole n.fraction
  let scale : Int := (dropped : Int) - taken
  let huge (place : Nat) : Except Defect Number := .error ⟨.hugeNumber, .behind place⟩
  let ofOption (x : Option Number) : Except Defect Number := x.elim (huge n.stop) .ok
  match n.exponent with
  | none =>
    if n.fraction.isEmpty ∧ dropped = 0 then ofOption (integer n.negative m)
    else ofOption (double n.negative m scale)
  | some e =>
    match overrun? 0 0 e.digits with
    | none => ofOption (double n.negative m (scale + Exponent.value e))
    | some count =>
      if m ≠ 0 ∧ !e.negative then huge (e.start + count) else ofOption (double n.negative 0 0)

/-- A point and the digits behind it, if the text goes on with a point at `index`. -/
def fractionPart (index : Nat) : List Char → Except Break (List Char × Nat × List Char)
  | '.' :: rest =>
    let digits := rest.takeWhile Char.isDigit
    if digits.isEmpty then .error (.inNumber rest.isEmpty (.past (index + 1)))
    else .ok (digits, index + 1 + digits.length, rest.dropWhile Char.isDigit)
  | rest => .ok ([], index, rest)

def exponentSign (index : Nat) : List Char → Bool × Nat × List Char
  | '+' :: rest => (false, index + 1, rest)
  | '-' :: rest => (true, index + 1, rest)
  | rest => (false, index, rest)

/-- An exponent, if the text goes on with one at `index`. -/
def exponentPart (index : Nat) : List Char → Except Break (Option Exponent × Nat × List Char)
  | [] => .ok (none, index, [])
  | c :: rest =>
    if c == 'e' || c == 'E' then
      let (negative, start, rest) := exponentSign (index + 1) rest
      let digits := rest.takeWhile Char.isDigit
      if digits.isEmpty then
        if rest.isEmpty then .error (.inNumber true (.behind start))
        else .error (.of .badNumber (.behind (start + 1)))
      else .ok (some ⟨negative, digits, start⟩, start + digits.length, rest.dropWhile Char.isDigit)
    else .ok (none, index, c :: rest)

/-- The numeral at the front of a text, and what follows it; `index` is where its digits start. -/
def scan (negative : Bool) (index : Nat) (cs : List Char) : Except Break (Numeral × List Char) :=
  match cs.takeWhile Char.isDigit with
  | [] =>
    if cs.isEmpty then .error (.inNumber true (.behind index))
    else .error (.of .badNumber (.behind (index + 1)))
  | d :: more =>
    if d == '0' && !more.isEmpty then .error (.of .badNumber (.past (index + 1)))
    else do
      let whole := d :: more
      let rest := cs.dropWhile Char.isDigit
      let (fraction, index, rest) ← fractionPart (index + whole.length) rest
      let (exponent, stop, rest) ← exponentPart index rest
      pure ({ negative, whole, fraction, exponent, stop }, rest)

end Numeral

end BoundSql.Json
