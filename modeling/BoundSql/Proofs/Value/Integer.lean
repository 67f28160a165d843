import BoundSql.Proofs.Json.Integer
import BoundSql.Proofs.Value.Inline
import BoundSql.Table.Document

/-! # Integers in descriptors

An integer that 64 bits with a sign hold is kept exactly where an operand or a default is expected.
Any other is refused or becomes a double: the nearest multiple of `2048` if 64 bits without a sign
hold it. So the integers that are kept stay apart, and others may come to one value.
-/

namespace BoundSql

open Json (Document Draft IntegerText)

/-- A text that spells the integer `n`. -/
def SpellsInt (s : String) (n : Int) : Prop :=
  ∃ w : IntegerText, w.text = s ∧ w.value = n

def Value.Denotes : Value → Int → Prop
  | int k, n => k.toInt = n
  | float x, n => x.isFinite ∧ x.toRat = n
  | text s, n => SpellsInt s n
  | _, _ => False

theorem Value.fitsInt64_iff {n : Int} : Value.fitsInt64 n ↔ -2 ^ 63 ≤ n ∧ n < 2 ^ 63 := by
  simp [Value.fitsInt64]

theorem spellsInt_toString (n : Int) : SpellsInt (toString n) n := by
  rcases lt_or_ge n 0 with hn | hn
  · refine ⟨⟨true, n.natAbs⟩, ?_, ?_⟩
    · rw [← String.toList_inj, Value.toList_toString_int, if_neg (by omega), IntegerText.text,
        String.toList_ofList]
      have habs : (-n).toNat = n.natAbs := by omega
      rw [habs]
      rfl
    · change -(n.natAbs : Int) = n
      omega
  · refine ⟨⟨false, n.toNat⟩, ?_, ?_⟩
    · rw [← String.toList_inj, Value.toList_toString_int, if_pos hn, IntegerText.text,
        String.toList_ofList]
      rfl
    · change (n.toNat : Int) = n
      omega

/-- Only zero is spelled in two ways, and no text spells two integers. -/
theorem SpellsInt.unique {s : String} {m n : Int} (hm : SpellsInt s m) (hn : SpellsInt s n) :
    m = n := by
  obtain ⟨⟨b, k⟩, rfl, rfl⟩ := hm
  obtain ⟨⟨c, l⟩, h, rfl⟩ := hn
  have hchars := String.ofList_injective h
  rw [IntegerText.chars, IntegerText.chars] at hchars
  cases b <;> cases c
  · obtain rfl : l = k := Value.toDigits_inj hchars
    rfl
  · exact absurd hchars.symm (Value.toDigits_ne_minus _ _)
  · exact absurd hchars (Value.toDigits_ne_minus _ _)
  · obtain rfl : l = k := Value.toDigits_inj (List.cons.inj hchars).2
    rfl

theorem Value.Denotes.unique {v : Value} {m n : Int} (hm : v.Denotes m) (hn : v.Denotes n) :
    m = n := by
  cases v with
  | int k => exact hm.symm.trans hn
  | float x => exact_mod_cast hm.2.symm.trans hn.2
  | text s => exact SpellsInt.unique hm hn
  | null | bool | blob => exact hm.elim

namespace Json.IntegerText

def asOperand (w : IntegerText) : Read Operand :=
  (Document.ofString w.text).read Draft.operand

def asDefault (w : IntegerText) : Read (Setting DefaultValue) :=
  (Document.ofString w.text).read (Setting.read DefaultValue.ofJson?)

variable {w : IntegerText}

/-- An operand and a default that an integer is read as. -/
structure Gives (w : IntegerText) (v : Value) (s : String) : Prop where
  operand : w.asOperand = .ok (.scalar v)
  default : w.asDefault = .ok (.set (.literal s))

inductive Outcome (w : IntegerText) : Prop
  | exact (h : Value.fitsInt64 w.value)
    (hgives : w.Gives (.int (.ofInt w.value)) (toString w.value))
  | minusZero (h : w.value = 0) (hgives : w.Gives (.float (Binary64.ofParts true 0)) "-0")
  | word (hlow : 2 ^ 63 ≤ w.value) (hhigh : w.value < 2 ^ 64)
    (hgives : w.Gives (.float (.ofInt w.value)) (Binary64.ofInt w.value).plain)
  | rounded (h : ¬ Number.Fits (.integer w.value)) {x : Binary64} (hx : ¬ x.isZero)
    (hgives : w.Gives (.float x) x.plain)
  | refused (h : ¬ Number.Fits (.integer w.value)) {e e' : Refusal}
    (hoperand : w.asOperand = .error e) (hdefault : w.asDefault = .error e')

theorem gives_of_ofString {y : Number} {span : Span} {v : Value} {s : String}
    (hdocument : Document.ofString w.text = ⟨.number y span, none⟩)
    (hv : Value.ofJson? (.number y) = some v) (hs : DefaultValue.ofNumber y = .literal s) :
    w.Gives v s := by
  have hoperand : Operand.ofJson? (.number y) = some (.scalar v) :=
    congrArg (Option.map Operand.scalar) hv
  have hdefault : DefaultValue.ofJson? (.number y) = some (.literal s) := congrArg some hs
  constructor
  · rw [asOperand, hdocument]
    simp only [Document.read, Draft.operand, Draft.alternative, Draft.whole, Read.ofExcept, bind,
      Except.bind, hoperand]
    rfl
  · rw [asDefault, hdocument]
    simp only [Document.read, Setting.read, Draft.alternative, Draft.whole, Read.ofExcept, bind,
      Except.bind, hdefault]
    rfl

theorem outcome (w : IntegerText) : w.Outcome := by
  obtain ⟨stop, hdocument⟩ := w.ofString_text
  have hread := w.readsAs stop
  generalize (w.numeral stop).value = r at hdocument hread
  cases hread with
  | exact h =>
    obtain ⟨hlow, hhigh⟩ := h
    by_cases hfits : Value.fitsInt64 w.value
    · refine .exact hfits (gives_of_ofString hdocument ?_ ?_)
      · rw [Value.ofJson?, if_pos hfits]
      · rw [DefaultValue.ofNumber, if_pos hfits]
    · have hword : 2 ^ 63 ≤ w.value := by
        rw [Value.fitsInt64_iff] at hfits
        omega
      refine .word hword hhigh (gives_of_ofString hdocument ?_ ?_)
      · rw [Value.ofJson?, if_neg hfits]
      · rw [DefaultValue.ofNumber, if_neg hfits]
  | minusZero h => exact .minusZero h (gives_of_ofString hdocument rfl (by decide +kernel))
  | rounded h hx => exact .rounded h hx (gives_of_ofString hdocument rfl rfl)
  | refused h defect =>
    have hoperand : w.asOperand = .error (.ofDefect defect) := by
      rw [asOperand, hdocument]
      rfl
    have hdefault : w.asDefault = .error (.ofDefect defect) := by
      rw [asDefault, hdocument]
      rfl
    exact .refused h hoperand hdefault

theorem value_of_pos (h : 0 < w.value) : w.value = w.magnitude := by
  rw [value] at h ⊢
  split at h
  next => omega
  next hnegative => rw [if_neg hnegative]

theorem magnitude_of_word (hlow : 2 ^ 63 ≤ w.value) (hhigh : w.value < 2 ^ 64) :
    2 ^ 63 ≤ w.magnitude ∧ w.magnitude < 2 ^ 64 := by
  have hvalue := value_of_pos (w := w) (by omega)
  omega

theorem denotes_minusZero : (Value.float (Binary64.ofParts true 0)).Denotes 0 := by
  have hzero : (Binary64.ofParts true 0).significand = 0 := by decide
  refine ⟨by decide, ?_⟩
  rw [Binary64.toRat, hzero]
  simp

/-- An integer of 64 bits with a sign is kept; the only double among the operands is minus zero. -/
theorem gives_of_fits (h : Value.fitsInt64 w.value) :
    ∃ v s, w.Gives v s ∧ v.Denotes w.value ∧ SpellsInt s w.value ∧
      ∀ x, v = .float x → x.isZero := by
  have hfits := Value.fitsInt64_iff.mp h
  cases w.outcome with
  | exact _ hgives =>
    refine ⟨_, _, hgives, ?_, spellsInt_toString w.value, nofun⟩
    exact Int64.toInt_ofInt_of_le hfits.1 hfits.2
  | minusZero hzero hgives =>
    refine ⟨_, _, hgives, ?_, ?_, ?_⟩
    · rw [hzero]
      exact denotes_minusZero
    · exact ⟨⟨true, 0⟩, by decide +kernel, hzero.symm⟩
    · rintro x hx
      obtain rfl := Value.float.inj hx
      decide
  | word hlow hhigh => omega
  | rounded hno | refused hno =>
    rw [Number.Fits] at hno
    omega

theorem gives_of_not_fits (h : ¬ Value.fitsInt64 w.value) :
    (∃ e e', w.asOperand = .error e ∧ w.asDefault = .error e') ∨
      ∃ x, w.Gives (.float x) x.plain ∧ ¬ x.isZero := by
  cases w.outcome with
  | exact hfits => exact absurd hfits h
  | minusZero hzero =>
    rw [hzero] at h
    exact absurd rfl h
  | word hlow hhigh hgives =>
    obtain ⟨hm, hm'⟩ := magnitude_of_word hlow hhigh
    rw [value_of_pos (by omega)] at hgives
    exact .inr ⟨_, hgives, Binary64.isZero_of_exponentField (Binary64.exponentField_ofInt hm hm')⟩
  | rounded _ hx hgives => exact .inr ⟨_, hgives, hx⟩
  | refused _ hoperand hdefault => exact .inl ⟨_, _, hoperand, hdefault⟩

/-- An integer that 64 bits hold without a sign, but not with one, becomes the nearest multiple of
`2048`. -/
theorem gives_of_word (hlow : 2 ^ 63 ≤ w.value) (hhigh : w.value < 2 ^ 64) :
    w.Gives (.float (.ofInt w.value)) (Binary64.ofInt w.value).plain ∧
      (Binary64.ofInt w.value).toRat =
        (Binary64.roundHalfEven w.magnitude 2048 * 2048 : ℕ) ∧
      ((Value.float (.ofInt w.value)).Denotes w.value ↔ 2048 ∣ w.magnitude) := by
  obtain ⟨hm, hm'⟩ := magnitude_of_word hlow hhigh
  have hvalue := value_of_pos (w := w) (by omega)
  have hrat := Binary64.toRat_ofInt hm hm'
  refine ⟨?_, ?_, ?_⟩
  · cases w.outcome with
    | word _ _ hgives => exact hgives
    | exact h =>
      rw [Value.fitsInt64_iff] at h
      omega
    | minusZero h => omega
    | rounded h | refused h =>
      rw [Number.Fits] at h
      omega
  · rw [hvalue, hrat]
  · rw [hvalue, ← Binary64.roundHalfEven_mul_eq_iff (by decide)]
    constructor
    · rintro ⟨-, hexact⟩
      rw [hrat] at hexact
      exact_mod_cast hexact
    · intro hexact
      refine ⟨Binary64.isFinite_ofInt hm hm', ?_⟩
      rw [hrat, hexact]
      norm_cast

theorem asOperand_ne {w' : IntegerText} (hne : w.value ≠ w'.value)
    (h : Value.fitsInt64 w.value) : w.asOperand ≠ w'.asOperand := by
  intro heq
  obtain ⟨v, s, hgives, hv, -, hzero⟩ := gives_of_fits h
  rw [hgives.operand] at heq
  by_cases h' : Value.fitsInt64 w'.value
  · obtain ⟨v', s', hgives', hv', -⟩ := gives_of_fits h'
    rw [hgives'.operand] at heq
    obtain rfl := Operand.scalar.inj (Except.ok.inj heq)
    exact hne (hv.unique hv')
  · rcases gives_of_not_fits h' with ⟨e, e', herror, -⟩ | ⟨x, hgives', hx⟩
    · rw [herror] at heq
      cases heq
    · rw [hgives'.operand] at heq
      exact hx (hzero x (Operand.scalar.inj (Except.ok.inj heq)))

theorem asDefault_ne {w' : IntegerText} (hne : w.value ≠ w'.value)
    (h : Value.fitsInt64 w.value) (h' : Value.fitsInt64 w'.value) : w.asDefault ≠ w'.asDefault := by
  intro heq
  obtain ⟨v, s, hgives, -, hs, -⟩ := gives_of_fits h
  obtain ⟨v', s', hgives', -, hs', -⟩ := gives_of_fits h'
  rw [hgives.default, hgives'.default] at heq
  obtain rfl := DefaultValue.literal.inj (Setting.set.inj (Except.ok.inj heq))
  exact hne (hs.unique hs')

/-- An integer that 64 bits with a sign hold is kept by the operand and by the default that it is
read as. Any other is refused or becomes a double, and the default is what the double is in plain
notation; between `2^63` and `2^64` it is always read, and kept by the operand exactly if it is a
multiple of `2048`. Different integers are different operands if 64 bits hold one of them, and
different defaults if 64 bits hold both. -/
theorem read_integers (w : IntegerText) :
    (Value.fitsInt64 w.value →
      ∃ v s, w.Gives v s ∧ v.Denotes w.value ∧ SpellsInt s w.value) ∧
    (¬ Value.fitsInt64 w.value →
      (∃ e e', w.asOperand = .error e ∧ w.asDefault = .error e') ∨
        ∃ x, w.Gives (.float x) x.plain ∧ ¬ x.isZero) ∧
    (2 ^ 63 ≤ w.value → w.value < 2 ^ 64 →
      w.Gives (.float (.ofInt w.value)) (Binary64.ofInt w.value).plain ∧
      (Binary64.ofInt w.value).toRat =
        (Binary64.roundHalfEven w.magnitude 2048 * 2048 : ℕ) ∧
      ((Value.float (.ofInt w.value)).Denotes w.value ↔ 2048 ∣ w.magnitude)) ∧
    ∀ w' : IntegerText, w.value ≠ w'.value → Value.fitsInt64 w.value →
      w.asOperand ≠ w'.asOperand ∧
      (Value.fitsInt64 w'.value → w.asDefault ≠ w'.asDefault) := by
  refine ⟨fun h => ?_, gives_of_not_fits, gives_of_word, fun w' hne h => ?_⟩
  · obtain ⟨v, s, hgives, hv, hs, -⟩ := gives_of_fits h
    exact ⟨v, s, hgives, hv, hs⟩
  · exact ⟨asOperand_ne hne h, asDefault_ne hne h⟩

/-- A small integer, its neighbour, and a multiple of `2048` beyond 63 bits. -/
theorem read_integers_of_keys :
    let small : IntegerText := ⟨true, 5⟩
    let next : IntegerText := ⟨true, 4⟩
    let key : IntegerText := ⟨false, 9223372036854777856⟩
    (∃ v s, small.Gives v s ∧ v.Denotes (-5) ∧ SpellsInt s (-5)) ∧
      (∃ x, key.Gives (.float x) x.plain ∧ ¬ x.isZero) ∧
      (Value.float (.ofInt 9223372036854777856)).Denotes 9223372036854777856 ∧
      small.asOperand ≠ key.asOperand ∧ small.asDefault ≠ next.asDefault := by
  intro small next key
  obtain ⟨hfits, -, -, hne⟩ := read_integers small
  obtain ⟨-, hnot, hword, -⟩ := read_integers key
  have hsmall : Value.fitsInt64 small.value := by decide
  obtain ⟨hgives, -, hkey⟩ := hword (by decide) (by decide)
  refine ⟨hfits hsmall, ?_, hkey.mpr (by decide), (hne key (by decide) hsmall).1,
    (hne next (by decide) hsmall).2 (by decide)⟩
  rcases hnot (by decide) with ⟨e, e', herror, -⟩ | hrounded
  · rw [hgives.operand] at herror
    cases herror
  · exact hrounded

/-- The largest key of 64 bits is read as `2^64`, as the key before it is, and its default spells
another integer. -/
theorem largest_key_is_rounded :
    let w : IntegerText := ⟨false, 18446744073709551615⟩
    let w' : IntegerText := ⟨false, 18446744073709551614⟩
    let x := Binary64.ofInt 18446744073709551615
    w.text = "18446744073709551615" ∧ w.value ≠ w'.value ∧
      w.asOperand = .ok (.scalar (.float x)) ∧ w'.asOperand = .ok (.scalar (.float x)) ∧
      x.toRat = 2 ^ 64 ∧ ¬ (Value.float x).Denotes w.value ∧
      w.asDefault = .ok (.set (.literal "18446744073709552000")) ∧
      ¬ SpellsInt "18446744073709552000" w.value := by
  intro w w' x
  obtain ⟨hgives, hrat, hdenotes⟩ := gives_of_word (w := w) (by decide) (by decide)
  obtain ⟨hgives', -, -⟩ := gives_of_word (w := w') (by decide) (by decide)
  have hsame : Binary64.ofInt w'.value = x := by decide +kernel
  have hplain : x.plain = "18446744073709552000" := by decide +kernel
  have hspelled : SpellsInt "18446744073709552000" 18446744073709552000 :=
    ⟨⟨false, 18446744073709552000⟩, by decide +kernel, rfl⟩
  refine ⟨by decide +kernel, by decide, hgives.operand, ?_, ?_, ?_, ?_, ?_⟩
  · rw [hgives'.operand, hsame]
  · exact hrat.trans (by norm_num [Binary64.roundHalfEven, w])
  · exact hdenotes.not.mpr (by decide)
  · rw [hgives.default, show Binary64.ofInt w.value = x from rfl, hplain]
  · intro h
    exact absurd (h.unique hspelled) (by decide)

end Json.IntegerText

end BoundSql
