import BoundSql.Binary64.Scaled
import Mathlib.Algebra.Order.Field.Rat
import Mathlib.Tactic.FieldSimp
import Mathlib.Tactic.NormNum
import Mathlib.Tactic.Ring

/-! # Exact values of doubles

A finite double is a fraction. An integer between `2^63` and `2^64` becomes the nearest multiple of
`2048`, and so it keeps its value only if it is one. No double that stands for a positive integer is
zero.
-/

namespace BoundSql.Binary64

def toRat (x : Binary64) : ℚ :=
  (if x.isNegative then -1 else 1) * x.significand * 2 ^ x.exponent

section

variable (negative : Bool) {rest : Nat}

theorem toNat_ofParts (h : rest < 2 ^ 63) :
    (ofParts negative rest).bits.toNat = (if negative then 2 ^ 63 else 0) + rest := by
  rw [ofParts, UInt64.toNat_ofNat']
  apply Nat.mod_eq_of_lt
  split <;> omega

theorem isNegative_ofParts (h : rest < 2 ^ 63) : (ofParts negative rest).isNegative = negative := by
  rw [isNegative, toNat_ofParts negative h]
  cases negative with
  | false => exact decide_eq_false (by simpa using h)
  | true => exact decide_eq_true (Nat.le_add_right _ _)

theorem exponentField_ofParts (h : rest < 2 ^ 63) :
    (ofParts negative rest).exponentField = rest / 2 ^ 52 := by
  rw [exponentField, toNat_ofParts negative h]
  split <;> omega

theorem fraction_ofParts (h : rest < 2 ^ 63) :
    (ofParts negative rest).fraction = rest % 2 ^ 52 := by
  rw [fraction, toNat_ofParts negative h]
  split <;> omega

theorem isFinite_ofParts (h : rest < topExponent * 2 ^ 52) :
    (ofParts negative rest).isFinite := by
  rw [topExponent] at h
  rw [isFinite, exponentField_ofParts negative (by omega), topExponent, bne_iff_ne]
  omega

theorem significand_ofParts {k m : Nat} (hlow : 2 ^ 52 ≤ m) (hhigh : m < 2 ^ 53)
    (h : k * 2 ^ 52 + m < 2 ^ 63) : (ofParts negative (k * 2 ^ 52 + m)).significand = m := by
  rw [significand, exponentField_ofParts negative h, fraction_ofParts negative h, if_neg (by omega)]
  omega

theorem exponent_ofParts {k m : Nat} (hlow : 2 ^ 52 ≤ m) (hhigh : m < 2 ^ 53)
    (h : k * 2 ^ 52 + m < 2 ^ 63) :
    (ofParts negative (k * 2 ^ 52 + m)).exponent = (k : ℤ) - 1074 := by
  rw [exponent, exponentField_ofParts negative h, if_neg (by omega)]
  omega

theorem toRat_ofParts {k m : Nat} (hlow : 2 ^ 52 ≤ m) (hhigh : m ≤ 2 ^ 53)
    (h : k * 2 ^ 52 + m < 2 ^ 63) :
    (ofParts negative (k * 2 ^ 52 + m)).toRat =
      (if negative then -1 else 1) * m * 2 ^ ((k : ℤ) - 1074) := by
  rcases Nat.lt_or_eq_of_le hhigh with hlt | rfl
  · rw [toRat, isNegative_ofParts negative h, significand_ofParts negative hlow hlt h,
      exponent_ofParts negative hlow hlt h]
  · have hnext : k * 2 ^ 52 + 2 ^ 53 = (k + 1) * 2 ^ 52 + 2 ^ 52 := by omega
    rw [hnext] at h ⊢
    rw [toRat, isNegative_ofParts negative h,
      significand_ofParts negative (by decide) (by decide) h,
      exponent_ofParts negative (by decide) (by decide) h]
    have hpower : (2 : ℚ) ^ (((k + 1 : ℕ) : ℤ) - 1074) = 2 * 2 ^ ((k : ℤ) - 1074) := by
      rw [← zpow_one_add₀ (by norm_num)]
      congr 1
      omega
    rw [hpower]
    push_cast
    ring

end

theorem le_roundHalfEven (num den : Nat) : num / den ≤ roundHalfEven num den := by
  rw [roundHalfEven]
  split_ifs <;> omega

theorem roundHalfEven_le (num den : Nat) : roundHalfEven num den ≤ num / den + 1 := by
  rw [roundHalfEven]
  split_ifs <;> omega

theorem roundHalfEven_mul_eq_iff {num den : Nat} (h : 0 < den) :
    roundHalfEven num den * den = num ↔ den ∣ num := by
  constructor
  · intro hexact
    exact Dvd.intro_left _ hexact
  · rintro ⟨n, rfl⟩
    rw [roundHalfEven, Nat.mul_mod_right, Nat.mul_zero, if_pos h, Nat.mul_div_cancel_left n h,
      Nat.mul_comm]

/-- The exponent of a rounded quotient falls short of the order of the quotient by one at most. -/
theorem log2_le_exponentField {negative : Bool} {num den : Nat} {x : Binary64} (hnum : num ≠ 0)
    (h : ofQuotient negative num den = some x) :
    num.log2 + 1021 ≤ x.exponentField + den.log2 := by
  have horder : (num.log2 : ℤ) - den.log2 - 1 ≤ binaryOrder num den := by
    rw [binaryOrder]
    split_ifs <;> omega
  rw [ofQuotient, if_neg hnum] at h
  extract_lets q m rest at h
  split at h
  next hrest =>
    obtain rfl := Option.some.inj h
    rw [topExponent] at hrest
    rw [exponentField_ofParts negative (by omega)]
    omega
  next => cases h

theorem log2_one : Nat.log2 1 = 0 := by
  decide +kernel

theorem binaryOrder_one {num : Nat} (h : num ≠ 0) : binaryOrder num 1 = num.log2 := by
  have hfits := Nat.log2_self_le h
  rw [binaryOrder, log2_one]
  simp [hfits]

theorem isSome_ofQuotient (negative : Bool) {num : Nat} (hnum : num ≠ 0) (h : num < 2 ^ 1023) :
    (ofQuotient negative num 1).isSome := by
  have hlog := (Nat.log2_lt hnum).mpr h
  have hlarge : num < 2 ^ (num.log2 + 1) := Nat.lt_log2_self
  rw [ofQuotient, if_neg hnum, binaryOrder_one hnum]
  extract_lets q m rest
  have hm : m ≤ 2 ^ 53 := by
    unfold m
    split
    next hq =>
      have hpower : 2 ^ (num.log2 + 1) = 1 * 2 ^ q.toNat * 2 ^ 53 := by
        rw [Nat.one_mul, ← Nat.pow_add]
        congr 1
        omega
      have hdiv : num / (1 * 2 ^ q.toNat) < 2 ^ 53 := Nat.div_lt_of_lt_mul (hpower ▸ hlarge)
      have hle := roundHalfEven_le num (1 * 2 ^ q.toNat)
      omega
    next hq =>
      have hpower : 2 ^ 53 = 2 ^ (num.log2 + 1) * 2 ^ (-q).toNat := by
        rw [← Nat.pow_add]
        congr 1
        omega
      have hmul : num * 2 ^ (-q).toNat < 2 ^ 53 :=
        hpower ▸ Nat.mul_lt_mul_of_pos_right hlarge (Nat.two_pow_pos _)
      have hle := roundHalfEven_le (num * 2 ^ (-q).toNat) 1
      omega
  have hrest : rest < topExponent * 2 ^ 52 := by
    rw [topExponent]
    omega
  rw [if_pos hrest]
  rfl

section

variable {n : Nat} (hlow : 2 ^ 63 ≤ n) (hhigh : n < 2 ^ 64)

include hlow hhigh

theorem roundHalfEven_bounds :
    2 ^ 52 ≤ roundHalfEven n 2048 ∧ roundHalfEven n 2048 ≤ 2 ^ 53 := by
  have hle := le_roundHalfEven n 2048
  have hge := roundHalfEven_le n 2048
  omega

theorem ofQuotient_one :
    ofQuotient false n 1 = some (ofParts false (1085 * 2 ^ 52 + roundHalfEven n 2048)) := by
  have hn : n ≠ 0 := by omega
  have hlog : n.log2 = 63 := (Nat.log2_eq_iff hn).mpr ⟨hlow, hhigh⟩
  obtain ⟨-, hle⟩ := roundHalfEven_bounds hlow hhigh
  have hrest : 1085 * 2 ^ 52 + roundHalfEven n 2048 < topExponent * 2 ^ 52 := by
    rw [topExponent]
    omega
  rw [ofQuotient, if_neg hn, binaryOrder_one hn, hlog]
  exact if_pos hrest

/-- The last eleven bits of such an integer are rounded off. -/
theorem ofInt_eq : ofInt n = ofParts false (1085 * 2 ^ 52 + roundHalfEven n 2048) := by
  have hn : n ≠ 0 := by omega
  have hcount : digitCount n ≤ 20 :=
    (Nat.length_toDigits_le_iff (by decide) (by decide)).mpr (by omega)
  have hdecimal : ofDecimal false n 0 = ofQuotient false n 1 := by
    rw [ofDecimal, if_neg hn]
    extract_lets order
    rw [if_neg (by omega), if_neg (by omega)]
    simp
  have hpositive : decide ((n : Int) < 0) = false := by simp
  rw [ofInt, hpositive, Int.natAbs_natCast, hdecimal, ofQuotient_one hlow hhigh, Option.getD_some]

theorem isFinite_ofInt : (ofInt n).isFinite := by
  have hbounds := roundHalfEven_bounds hlow hhigh
  rw [ofInt_eq hlow hhigh]
  refine isFinite_ofParts false ?_
  rw [topExponent]
  omega

theorem exponentField_ofInt : (ofInt n).exponentField ≠ 0 := by
  have hbounds := roundHalfEven_bounds hlow hhigh
  rw [ofInt_eq hlow hhigh, exponentField_ofParts false (by omega)]
  omega

theorem toRat_ofInt : (ofInt n).toRat = (roundHalfEven n 2048 * 2048 : ℕ) := by
  obtain ⟨hge, hle⟩ := roundHalfEven_bounds hlow hhigh
  rw [ofInt_eq hlow hhigh, toRat_ofParts false hge hle (by omega)]
  norm_num

end

variable {x y z : Binary64}

theorem isZero_of_exponentField (h : x.exponentField ≠ 0) : ¬ x.isZero := by
  simp [isZero, h]

theorem exponentField_ten {n : Nat} (h : n ≤ tenStep) : 1021 ≤ (ten n).exponentField := by
  have hne : 10 ^ n ≠ 0 := (Nat.pow_pos (by decide)).ne'
  have hsome : (ofQuotient false (10 ^ n) 1).isSome := by
    rcases Nat.lt_or_eq_of_le h with hlt | rfl
    · have hle : 10 ^ n ≤ 10 ^ (tenStep - 1) :=
        Nat.pow_le_pow_right (by decide) (Nat.le_pred_of_lt hlt)
      have hsmall : 10 ^ (tenStep - 1) < 2 ^ 1023 := by decide +kernel
      exact isSome_ofQuotient false hne (Nat.lt_of_le_of_lt hle hsmall)
    · decide +kernel
  obtain ⟨y, hy⟩ := Option.isSome_iff_exists.mp hsome
  have hfield := log2_le_exponentField hne hy
  rw [log2_one] at hfield
  rw [ten, hy, Option.getD_some]
  omega

theorem exponentField_times (hx : 1021 ≤ x.exponentField) (hy : 1021 ≤ y.exponentField)
    (h : x.times y = some z) : z.exponentField ≠ 0 := by
  have large {w : Binary64} (hw : 1021 ≤ w.exponentField) :
      2 ^ 52 ≤ w.significand ∧ -54 ≤ w.exponent := by
    rw [significand, exponent, if_neg (by omega), if_neg (by omega)]
    omega
  obtain ⟨hxm, hxq⟩ := large hx
  obtain ⟨hym, hyq⟩ := large hy
  have hm := Nat.mul_le_mul hxm hym
  rw [← Nat.pow_add] at hm
  have hne : x.significand * y.significand ≠ 0 := by omega
  have hlog := (Nat.le_log2 hne).mpr hm
  rw [times, ofScaled] at h
  split at h
  next =>
    have hpower : 2 ^ (x.exponent + y.exponent).toNat ≠ 0 := (Nat.two_pow_pos _).ne'
    have hfield := log2_le_exponentField (Nat.mul_ne_zero hne hpower) h
    rw [log2_one] at hfield
    omega
  next hq =>
    have hfield := log2_le_exponentField hne h
    rw [Nat.log2_two_pow] at hfield
    omega

theorem exponentField_scaled (hx : 1021 ≤ x.exponentField) {scale : Int} (hscale : 0 ≤ scale)
    (h : x.scaled scale = some z) : z.exponentField ≠ 0 := by
  rw [scaled, if_neg (isZero_of_exponentField (by omega))] at h
  split at h
  next => cases h
  next hstep =>
    exact exponentField_times hx (exponentField_ten (by omega)) h

end BoundSql.Binary64
