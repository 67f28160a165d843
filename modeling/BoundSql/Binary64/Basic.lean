import BoundSql.Text.Digits

/-! # Double-precision numbers

A number is held as its 64 bits and read as `±m · 2^q`. Decimal text is rounded to the nearest
number, a half to the even neighbour, in exact arithmetic.
-/

namespace BoundSql

structure Binary64 where
  bits : UInt64
  deriving DecidableEq, Repr, Inhabited

namespace Binary64

def isNegative (x : Binary64) : Bool :=
  2 ^ 63 ≤ x.bits.toNat

def exponentField (x : Binary64) : Nat :=
  x.bits.toNat / 2 ^ 52 % 2 ^ 11

def fraction (x : Binary64) : Nat :=
  x.bits.toNat % 2 ^ 52

/-- The exponent field of infinities and of what is no number. -/
def topExponent : Nat := 2 ^ 11 - 1

def isNaN (x : Binary64) : Bool :=
  x.exponentField == topExponent && x.fraction != 0

def isInfinite (x : Binary64) : Bool :=
  x.exponentField == topExponent && x.fraction == 0

def isFinite (x : Binary64) : Bool :=
  x.exponentField != topExponent

/-- The `m` of a finite `±m · 2^q`. -/
def significand (x : Binary64) : Nat :=
  if x.exponentField = 0 then x.fraction else 2 ^ 52 + x.fraction

/-- The `q` of a finite `±m · 2^q`. -/
def exponent (x : Binary64) : Int :=
  if x.exponentField = 0 then -1074 else (x.exponentField : Int) - 1075

/-- The number with the given sign and the other 63 bits. -/
def ofParts (negative : Bool) (rest : Nat) : Binary64 :=
  ⟨UInt64.ofNat ((if negative then 2 ^ 63 else 0) + rest)⟩

/-- The quotient rounded to the nearest integer, a half to the even neighbour. -/
def roundHalfEven (num den : Nat) : Nat :=
  let floor := num / den
  let double := 2 * (num % den)
  if double < den then floor
  else if den < double then floor + 1
  else floor + floor % 2

/-- The exponent `e` with `2^e ≤ num / den < 2^(e+1)`, for positive `num` and `den`. -/
def binaryOrder (num den : Nat) : Int :=
  let guess : Int := (num.log2 : Int) - den.log2
  let fits := if 0 ≤ guess then den * 2 ^ guess.toNat ≤ num else den ≤ num * 2 ^ (-guess).toNat
  if fits then guess else guess - 1

/-- The number nearest to `num / den`; nothing when it is beyond the largest. -/
def ofQuotient (negative : Bool) (num den : Nat) : Option Binary64 :=
  if num = 0 then some (ofParts negative 0)
  else
    let q : Int := max (binaryOrder num den - 52) (-1074)
    let m := if 0 ≤ q then roundHalfEven num (den * 2 ^ q.toNat)
      else roundHalfEven (num * 2 ^ (-q).toNat) den
    let rest := (q + 1074).toNat * 2 ^ 52 + m
    if rest < topExponent * 2 ^ 52 then some (ofParts negative rest) else none

/-- How many decimal digits `n` has. -/
def digitCount (n : Nat) : Nat :=
  (Nat.toDigits 10 n).length

/-- The number nearest to `digits · 10^scale`. Scales that only reach infinity or zero are settled
without computing the power. -/
def ofDecimal (negative : Bool) (digits : Nat) (scale : Int) : Option Binary64 :=
  if digits = 0 then some (ofParts negative 0)
  else
    let order := (digitCount digits : Int) + scale
    if 310 < order then none
    else if order < -330 then some (ofParts negative 0)
    else if 0 ≤ scale then ofQuotient negative (digits * 10 ^ scale.toNat) 1
    else ofQuotient negative digits (10 ^ (-scale).toNat)

/-- The number nearest to an integer; every integer of 64 bits has one. -/
def ofInt (n : Int) : Binary64 :=
  (ofDecimal (decide (n < 0)) n.natAbs 0).getD ⟨0⟩

end Binary64

end BoundSql
