import BoundSql.Binary64.Scaled
import BoundSql.Binary64.Shortest

/-! # Number notations

Two notations write the shortest decimal of a number. Plain notation never has an exponent and
leaves whole numbers without a point. Document notation keeps a point in every number between
`1e-5` and `1e16` and writes the others with one digit before the point and a signed exponent.
-/

namespace BoundSql.Binary64

/-- The digits of a decimal without the zeros at its end, and where its point stands: the value is
`0.d₁d₂… · 10^point`. -/
def Decimal.parts (d : Decimal) : List Char × Int :=
  let digits := Nat.toDigits 10 d.digits
  ((digits.reverse.dropWhile (· == '0')).reverse, (digits.length : Int) + d.scale)

/-- The digits around a point, without an exponent; `whole` follows a number without a fraction. -/
def positional (digits : List Char) (point : Int) (whole : String) : String :=
  let count : Int := digits.length
  if point ≤ 0 then
    "0." ++ String.ofList (List.replicate (-point).toNat '0' ++ digits)
  else if count ≤ point then
    String.ofList (digits ++ List.replicate (point - count).toNat '0') ++ whole
  else
    String.ofList (digits.take point.toNat) ++ "." ++ String.ofList (digits.drop point.toNat)

/-- The digits with one before the point, and the exponent with its sign. -/
def scientific (digits : List Char) (point : Int) : String :=
  let mantissa := match digits with
    | [] => "0"
    | [d] => String.singleton d
    | d :: rest => String.singleton d ++ "." ++ String.ofList rest
  let exponent := point - 1
  mantissa ++ "e" ++ (if exponent < 0 then "-" else "+") ++ toString exponent.natAbs

def sign (x : Binary64) : String :=
  if x.isNegative then "-" else ""

/-- Plain notation: no exponent, no point in whole numbers, a tie upwards. -/
def plain (x : Binary64) : String :=
  if x.isNaN then "NaN"
  else if x.isInfinite then x.sign ++ "inf"
  else if x.isZero then x.sign ++ "0"
  else
    let (digits, point) := (x.shortest .up).parts
    x.sign ++ positional digits point ""

/-- Document notation of a finite number: a tie to the even digit. -/
def document (x : Binary64) : String :=
  if x.isZero then x.sign ++ "0.0"
  else
    let (digits, point) := (x.shortest .toEven).parts
    x.sign ++ (if -4 ≤ point && point ≤ 16 then positional digits point ".0"
      else scientific digits point)

end BoundSql.Binary64
