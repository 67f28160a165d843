import BoundSql.Json.Document
import BoundSql.Proofs.Binary64.Exact
import BoundSql.Proofs.Json.Token

/-! # Integers in documents

An integer is written with a sign or without, in any number of digits. It is read as itself if 64
bits hold it, with a sign or without; any other is read as a double or refused. Minus zero is read
as a double, and no other double is zero.
-/

namespace BoundSql.Json

/-- An integer as it is written: a minus sign or none, and digits without zeros in front. -/
structure IntegerText where
  negative : Bool
  magnitude : Nat
  deriving DecidableEq, Repr

namespace IntegerText

def chars (w : IntegerText) : List Char :=
  (if w.negative then ['-'] else []) ++ Nat.toDigits 10 w.magnitude

def text (w : IntegerText) : String :=
  String.ofList w.chars

def value (w : IntegerText) : Int :=
  if w.negative then -w.magnitude else w.magnitude

def numeral (w : IntegerText) (stop : Nat) : Numeral where
  negative := w.negative
  whole := Nat.toDigits 10 w.magnitude
  stop := stop

end IntegerText

namespace Numeral

theorem grow?_eq_some {m n : Nat} {c : Char} (h : grow? m c = some n) :
    n = 10 * m + (c.toNat - '0'.toNat) ∧ n < 2 ^ 64 := by
  rw [grow?] at h
  split at h
  next hk =>
    obtain rfl := Option.some.inj h
    exact ⟨rfl, hk⟩
  next => cases h

theorem takeWhole_eq_all {m k : Nat} {cs : List Char} (hm : m < 2 ^ 64)
    (h : takeWhole m cs = (k, 0)) : k = Nat.ofDigitChars 10 cs m ∧ k < 2 ^ 64 := by
  induction cs generalizing m with
  | nil =>
    obtain ⟨rfl, -⟩ := Prod.mk.inj h
    exact ⟨rfl, hm⟩
  | cons c cs ih =>
    rw [takeWhole_cons] at h
    split at h
    next n hgrow =>
      obtain ⟨rfl, hn⟩ := grow?_eq_some hgrow
      exact ih hn h
    next => cases (Prod.mk.inj h).2

theorem le_takeWhole (m : Nat) (cs : List Char) : m ≤ (takeWhole m cs).1 := by
  induction cs generalizing m with
  | nil => exact Nat.le_refl m
  | cons c cs ih =>
    rw [takeWhole_cons]
    split
    next n hgrow =>
      have hn := ih n
      have hm := (grow?_eq_some hgrow).1
      omega
    next => exact Nat.le_refl m

/-- Of the digits of a number beyond 64 bits the last are left out, and the first is taken in. -/
theorem takeWhole_of_large {m : Nat} (h : 2 ^ 64 ≤ m) :
    (takeWhole 0 (Nat.toDigits 10 m)).1 ≠ 0 ∧ (takeWhole 0 (Nat.toDigits 10 m)).2 ≠ 0 := by
  constructor
  · cases hd : Nat.toDigits 10 m with
    | nil => exact absurd hd Nat.toDigits_ne_nil
    | cons c cs =>
      have hdigit : c.isDigit :=
        Nat.isDigit_of_mem_toDigits (by decide) (by decide) (hd ▸ List.mem_cons_self)
      have hlead := head_toDigits_ne_zero (by omega) hd
      have hc : 0 < c.toNat - '0'.toNat ∧ c.toNat - '0'.toNat < 10 := by
        have hne : c.toNat ≠ '0'.toNat := fun heq => hlead (Char.toNat_inj.mp heq)
        have hrange : '0'.toNat ≤ c.toNat ∧ c.toNat ≤ '9'.toNat := by
          simpa [Char.isDigit, UInt32.le_iff_toNat_le] using hdigit
        have hnine : '9'.toNat = '0'.toNat + 9 := rfl
        omega
      have hgrow : grow? 0 c = some (c.toNat - '0'.toNat) := by
        rw [grow?, Nat.mul_zero, Nat.zero_add]
        exact if_pos (by omega)
      have hle := le_takeWhole (c.toNat - '0'.toNat) cs
      rw [takeWhole_cons, hgrow]
      exact Nat.ne_of_gt (Nat.lt_of_lt_of_le hc.1 hle)
  · intro hall
    have hk := takeWhole_eq_all (by decide) (Prod.ext rfl hall)
    rw [Nat.ofDigitChars_toDigits (by decide) (by decide)] at hk
    omega

theorem isZero_negated (x : Binary64) : x.negated.isZero = x.isZero := by
  have hrest : x.bits.toNat % 2 ^ 63 < 2 ^ 63 := Nat.mod_lt _ (by decide)
  rw [Binary64.isZero, Binary64.isZero, Binary64.negated, Binary64.exponentField_ofParts _ hrest,
    Binary64.fraction_ofParts _ hrest, Binary64.exponentField, Binary64.fraction]
  congr 2
  · omega
  · omega

theorem double_ne_zero {negative : Bool} {m : Nat} {scale : Int} {y : Number} (hm : m ≠ 0)
    (hscale : 0 ≤ scale) (h : double negative m scale = some y) :
    ∃ x, y = .float x ∧ ¬ x.isZero := by
  rw [double] at h
  obtain ⟨a, ha, h⟩ := Option.bind_eq_some_iff.mp h
  obtain ⟨b, hb, h⟩ := Option.bind_eq_some_iff.mp h
  obtain rfl := Option.some.inj h
  have hfield := Binary64.log2_le_exponentField hm ha
  rw [Binary64.log2_one] at hfield
  have hbzero := Binary64.isZero_of_exponentField
    (Binary64.exponentField_scaled (by omega) hscale hb)
  refine ⟨_, rfl, ?_⟩
  split
  · rwa [isZero_negated]
  · exact hbzero

end Numeral

namespace IntegerText

inductive ReadsAs (w : IntegerText) : Except Defect Number → Prop
  | exact (h : Number.Fits (.integer w.value)) : ReadsAs w (.ok (.integer w.value))
  | minusZero (h : w.value = 0) : ReadsAs w (.ok (.float (Binary64.ofParts true 0)))
  | rounded (h : ¬ Number.Fits (.integer w.value)) {x : Binary64} (hx : ¬ x.isZero) :
    ReadsAs w (.ok (.float x))
  | refused (h : ¬ Number.Fits (.integer w.value)) (defect : Defect) : ReadsAs w (.error defect)

theorem value_numeral (w : IntegerText) (stop : Nat) {m dropped : Nat}
    (h : Numeral.takeWhole 0 (Nat.toDigits 10 w.magnitude) = (m, dropped)) :
    (w.numeral stop).value =
      (if dropped = 0 then Numeral.integer w.negative m
        else Numeral.double w.negative m dropped).elim
        (.error ⟨.hugeNumber, .behind stop⟩) .ok := by
  simp only [numeral, Numeral.value, h, Numeral.takeFraction_nil]
  by_cases hdropped : dropped = 0
  · simp [hdropped]
  · simp [hdropped]

theorem readsAs_double {w : IntegerText} (h : ¬ Number.Fits (.integer w.value)) {m : Nat}
    (hm : m ≠ 0) (scale : Nat) (defect : Defect) :
    w.ReadsAs ((Numeral.double w.negative m scale).elim (.error defect) .ok) := by
  cases hdouble : Numeral.double w.negative m scale with
  | none => exact .refused h defect
  | some y =>
    obtain ⟨x, rfl, hx⟩ := Numeral.double_ne_zero hm (Int.natCast_nonneg scale) hdouble
    exact .rounded h hx

theorem integer_minus_zero :
    Numeral.integer true 0 = some (.float (Binary64.ofParts true 0)) := by
  have hzero : (Binary64.ofParts false 0).scaled 0 = some (Binary64.ofParts false 0) := by
    rw [Binary64.scaled]
    exact if_pos (by decide)
  change ((Binary64.ofParts false 0).scaled 0 >>= fun x => some (Number.float x.negated)) = _
  rw [hzero]
  rfl

theorem readsAs (w : IntegerText) (stop : Nat) : w.ReadsAs (w.numeral stop).value := by
  obtain ⟨negative, m⟩ := w
  by_cases hm : m < 2 ^ 64
  · rw [value_numeral _ stop (Numeral.takeWhole_toDigits hm), if_pos rfl]
    cases negative with
    | false =>
      have hfits : Number.Fits (.integer m) := ⟨by omega, by omega⟩
      exact .exact hfits
    | true =>
      rcases Nat.eq_zero_or_pos m with rfl | hpositive
      · rw [integer_minus_zero]
        exact .minusZero rfl
      by_cases hsmall : m ≤ 2 ^ 63
      · have hfits : Number.Fits (.integer (-m)) := ⟨by omega, by omega⟩
        rw [Numeral.integer_negative hpositive hsmall]
        exact .exact hfits
      · have hdouble : Numeral.integer true m = Numeral.double true m 0 := by
          rw [Numeral.integer, Bool.not_true, if_neg Bool.false_ne_true,
            if_neg fun h => hsmall h.2]
        have hfits : ¬ Number.Fits (.integer (-m)) := by
          rw [Number.Fits]
          omega
        rw [hdouble]
        exact readsAs_double (w := ⟨true, m⟩) hfits hpositive.ne' 0 _
  · obtain ⟨hne, hdropped⟩ := Numeral.takeWhole_of_large (Nat.le_of_not_lt hm)
    rw [value_numeral _ stop rfl, if_neg hdropped]
    refine readsAs_double ?_ hne _ _
    rw [Number.Fits]
    cases negative with
    | false =>
      change ¬ (-2 ^ 63 ≤ (m : Int) ∧ (m : Int) < 2 ^ 64)
      omega
    | true =>
      change ¬ (-2 ^ 63 ≤ -(m : Int) ∧ -(m : Int) < 2 ^ 64)
      omega

theorem tokenize_chars (w : IntegerText) :
    ∃ stop, tokenize 0 w.chars = [⟨.number (w.numeral stop).value, 0, stop⟩] := by
  have hends : Numeral.Ends [] := nofun
  obtain ⟨negative, m⟩ := w
  cases negative with
  | false =>
    obtain ⟨stop, hscan⟩ := Numeral.scan_toDigits false 0 m hends
    rw [List.append_nil] at hscan
    refine ⟨stop, ?_⟩
    change tokenize 0 (Nat.toDigits 10 m) = _
    cases hd : Nat.toDigits 10 m with
    | nil => exact absurd hd Nat.toDigits_ne_nil
    | cons c cs =>
      have hc : c.isDigit :=
        Nat.isDigit_of_mem_toDigits (by decide) (by decide) (hd ▸ List.mem_cons_self)
      have htoken : token 0 c cs =
          .ok (.number (numeral ⟨false, m⟩ stop).value, stop, []) := by
        rw [token_of_isDigit hc, numberToken, ← hd, hscan]
        rfl
      rw [tokenize_of_token (not_isSpace_of_isDigit hc) htoken, tokenize]
  | true =>
    obtain ⟨stop, hscan⟩ := Numeral.scan_toDigits true 1 m hends
    rw [List.append_nil] at hscan
    refine ⟨stop, ?_⟩
    have htoken : token 0 '-' (Nat.toDigits 10 m) =
        .ok (.number (numeral ⟨true, m⟩ stop).value, stop, []) := by
      rw [token, numberToken, hscan]
      rfl
    change tokenize 0 ('-' :: Nat.toDigits 10 m) = _
    rw [tokenize_of_token (by decide) htoken, tokenize]

/-- The document of an integer is a number, or a damaged value if the number is refused. -/
theorem ofString_text (w : IntegerText) :
    ∃ stop, match (w.numeral stop).value with
      | .ok n => Document.ofString w.text = ⟨.number n ⟨0, stop⟩, none⟩
      | .error defect => Document.ofString w.text = ⟨.damaged 0 .other defect none, none⟩ := by
  obtain ⟨stop, htokens⟩ := w.tokenize_chars
  refine ⟨stop, ?_⟩
  have hparse : Document.parse w.text =
      ⟨Parser.single ⟨.number (w.numeral stop).value, 0, stop⟩, none⟩ := by
    rw [Document.parse, text, String.toList_ofList, htokens]
    cases (w.numeral stop).value <;> rfl
  rw [Document.ofString, hparse]
  cases (w.numeral stop).value <;> rfl

end IntegerText

end BoundSql.Json
