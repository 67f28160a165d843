import BoundSql.Binary64.Basic

/-! # Shortest decimals

Of the decimals that read back as a given number, the one on the coarsest decimal grid is
written, and of those the nearest. The search is exact: a number, and the two ends of the interval
that rounds to it, are fractions over one denominator.
-/

namespace BoundSql.Binary64

inductive Tie where
  | toEven
  | up
  deriving DecidableEq, Repr

/-- The digits `d` and the scale `k` of a decimal `d · 10^k`. -/
structure Decimal where
  digits : Nat
  scale : Int
  deriving DecidableEq, Repr

/-- The numerators of a number and of the ends of its rounding interval over one denominator. -/
structure Interval where
  low : Nat
  value : Nat
  high : Nat
  den : Nat
  /-- Whether the ends themselves round to the number. -/
  closed : Bool
  deriving Repr

/-- The rounding interval of a positive finite number. -/
def interval (x : Binary64) : Interval :=
  let m := x.significand
  let q := x.exponent - 2
  let below := if m = 2 ^ 52 && x.exponent != -1074 then 4 * m - 1 else 4 * m - 2
  let power := if 0 ≤ q then 2 ^ q.toNat else 1
  { low := below * power
    value := 4 * m * power
    high := (4 * m + 2) * power
    den := if 0 ≤ q then 1 else 2 ^ (-q).toNat
    closed := m % 2 == 0 }

/-- Whether the fraction `num / den` lies in the interval. -/
def Interval.holds (i : Interval) (num den : Nat) : Bool :=
  if i.closed then i.low * den ≤ num * i.den && num * i.den ≤ i.high * den
  else i.low * den < num * i.den && num * i.den < i.high * den

/-- The point of the grid `10^k` in the interval that is nearest to the number, if there is one. -/
def Interval.onGrid (i : Interval) (tie : Tie) (k : Int) : Option Nat :=
  let up := if 0 ≤ k then 10 ^ k.toNat else 1
  let down := if 0 ≤ k then 1 else 10 ^ (-k).toNat
  let num := i.value * down
  let den := i.den * up
  let below := num / den
  let holds := fun d => d != 0 && i.holds (d * up) down
  match holds below, holds (below + 1) with
  | false, false => none
  | true, false => some below
  | false, true => some (below + 1)
  | true, true =>
    let double := 2 * (num % den)
    if double < den then some below
    else if den < double then some (below + 1)
    else match tie with
      | .up => some (below + 1)
      | .toEven => some (below + below % 2)

/-- The first hit on the grids `10^k`, `10^(k-1)`, …, at most `steps` of them. -/
def Interval.search (i : Interval) (tie : Tie) : (steps : Nat) → (k : Int) → Decimal
  | 0, k => ⟨i.value / i.den, k⟩
  | steps + 1, k =>
    match i.onGrid tie k with
    | some d => ⟨d, k⟩
    | none => i.search tie steps (k - 1)

/-- A scale whose grid is too coarse for the number, by at most three powers of ten. -/
def coarseScale (x : Binary64) : Int :=
  (x.exponent + x.significand.log2 + 1) * 30103 / 100000 + 1

/-- The shortest decimal of a positive finite number. Seventeen digits always suffice. -/
def shortest (tie : Tie) (x : Binary64) : Decimal :=
  x.interval.search tie 24 x.coarseScale

end BoundSql.Binary64
