import BoundSql.Binary64.Basic

/-! # Scaling by powers of ten

Products and quotients are rounded to the nearest number, a half to the even neighbour. A decimal
numeral is read as an integer below `2^64` and a power of ten, and the two are rounded one after
the other, so the number read may lie next to the one that is nearest to the numeral.
-/

namespace BoundSql.Binary64

/-- The number nearest to `m · 2^q`; nothing when it is beyond the largest. -/
def ofScaled (negative : Bool) (m : Nat) (q : Int) : Option Binary64 :=
  if 0 ≤ q then ofQuotient negative (m * 2 ^ q.toNat) 1
  else ofQuotient negative m (2 ^ (-q).toNat)

def times (x y : Binary64) : Option Binary64 :=
  ofScaled (x.isNegative != y.isNegative) (x.significand * y.significand) (x.exponent + y.exponent)

def dividedBy (x y : Binary64) : Option Binary64 :=
  let negative := x.isNegative != y.isNegative
  let q := x.exponent - y.exponent
  if 0 ≤ q then ofQuotient negative (x.significand * 2 ^ q.toNat) y.significand
  else ofQuotient negative x.significand (y.significand * 2 ^ (-q).toNat)

def isZero (x : Binary64) : Bool :=
  x.exponentField == 0 && x.fraction == 0

def negated (x : Binary64) : Binary64 :=
  ofParts (!x.isNegative) (x.bits.toNat % 2 ^ 63)

/-- The largest power of ten that one step scales by. -/
def tenStep : Nat := 308

/-- The number nearest to a power of ten up to `tenStep`. -/
def ten (n : Nat) : Binary64 :=
  (ofQuotient false (10 ^ n) 1).getD ⟨0⟩

/-- `x · 10^scale`, rounded at each step; nothing when it is beyond the largest. A scale below
`-tenStep` takes several steps, one above it is beyond the largest unless the number is zero. -/
def scaled (x : Binary64) (scale : Int) : Option Binary64 :=
  if x.isZero then some x
  else if tenStep < scale then none
  else if 0 ≤ scale then x.times (ten scale.toNat)
  else if -(tenStep : Int) ≤ scale then x.dividedBy (ten (-scale).toNat)
  else
    match x.dividedBy (ten tenStep) with
    | some y => scaled y (scale + tenStep)
    | none => none
termination_by scale.natAbs
decreasing_by
  simp only [tenStep] at *
  omega

end BoundSql.Binary64
