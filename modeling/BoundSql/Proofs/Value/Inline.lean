import BoundSql.Proofs.Condition.Document
import BoundSql.Proofs.Text.Literal

/-! # Inline forms

The inline form of a value that is no double shows the kind of the value by its first character, and
ends in front of a delimiter whatever the value holds. So where two texts agree that start with such
forms, the values agree as well.
-/

namespace BoundSql

/-- A mark that occurs in neither text in front of it stands at the same place. -/
theorem append_cons_inj {α : Type} {a : α} {xs ys us vs : List α} (hx : a ∉ xs) (hy : a ∉ ys)
    (h : xs ++ a :: us = ys ++ a :: vs) : xs = ys ∧ us = vs := by
  rcases List.append_eq_append_iff.mp h with ⟨ts, rfl, hts⟩ | ⟨ts, rfl, hts⟩
  all_goals
    cases ts with
    | nil =>
      obtain rfl := (List.cons.inj hts).2
      simp
    | cons t ts =>
      obtain rfl := (List.cons.inj hts).1
      simp_all

/-- A character in front of which the inline form of a value ends. -/
def Delimits (c : Char) : Prop :=
  c = ' ' ∨ c = ',' ∨ c = ')'

instance (c : Char) : Decidable (Delimits c) :=
  inferInstanceAs (Decidable (_ ∨ _ ∨ _))

namespace Binary64

theorem mark_not_mem_positional {digits : List Char} (h : '?' ∉ digits) (point : Int) :
    '?' ∉ (positional digits point "").toList := by
  simp only [positional]
  split_ifs
  · simp [h]
  · simp [h]
  · have htake (n : Nat) : '?' ∉ digits.take n := mt List.mem_of_mem_take h
    have hdrop (n : Nat) : '?' ∉ digits.drop n := mt List.mem_of_mem_drop h
    simp [htake, hdrop]

theorem positional_ne_empty (digits : List Char) (point : Int) :
    positional digits point "" ≠ "" := by
  rw [Ne, ← String.toList_inj]
  simp only [positional]
  split_ifs
  · simp
  · -- The point stands behind at least one digit or zero.
    intro h
    have hlength := congrArg List.length h
    simp only [String.append_empty, String.toList_ofList, List.length_append,
      List.length_replicate, String.toList_empty, List.length_nil] at hlength
    omega
  · simp

theorem mark_not_mem_plain (x : Binary64) : '?' ∉ x.plain.toList := by
  have hsign : '?' ∉ x.sign.toList := by
    unfold sign
    split <;> decide
  have hparts (d : Decimal) : '?' ∉ d.parts.1 := by
    intro h
    rw [Decimal.parts, List.mem_reverse] at h
    have hdigit := Nat.isDigit_of_mem_toDigits (by decide) (by decide)
      (List.mem_reverse.mp ((List.dropWhile_sublist _).subset h))
    exact absurd hdigit (by decide)
  unfold plain
  split_ifs
  · decide
  · simp [hsign]
  · simp [hsign]
  · simp [hsign, mark_not_mem_positional (hparts _)]

theorem plain_ne_empty (x : Binary64) : x.plain ≠ "" := by
  unfold plain
  split_ifs
  · decide
  · simp
  · simp
  · simp [positional_ne_empty]

end Binary64

namespace Value

/-- What the first character of an inline form tells of the value. -/
inductive Kind where
  | null
  | truth
  | number
  | text
  | blob
  deriving DecidableEq

def kind : Value → Kind
  | null => .null
  | bool _ => .truth
  | int _ => .number
  | float _ => .number
  | text _ => .text
  | blob _ => .blob

def Kind.ofLead? (c : Char) : Option Kind :=
  if c = 'N' then some null
  else if c = 'T' ∨ c = 'F' then some truth
  else if c = '\'' then some text
  else if c = 'X' then some blob
  else if c = '-' ∨ c.isDigit then some number
  else none

theorem toList_toString_int (n : Int) :
    (toString n).toList = if 0 ≤ n then Nat.toDigits 10 n.toNat
      else '-' :: Nat.toDigits 10 (-n).toNat := by
  rw [Int.toString_eq_repr, Int.repr_eq_if]
  split
  · exact Nat.toList_repr
  · rw [String.toList_append, Nat.toList_repr]
    rfl

theorem mem_toString_int {n : Int} {c : Char} (h : c ∈ (toString n).toList) :
    c = '-' ∨ c.isDigit := by
  have hdigit {m : Nat} (hm : c ∈ Nat.toDigits 10 m) : c.isDigit :=
    Nat.isDigit_of_mem_toDigits (by decide) (by decide) hm
  rw [toList_toString_int] at h
  split at h
  · exact .inr (hdigit h)
  · exact (List.mem_cons.mp h).imp_right hdigit

theorem not_mem_toString_int {c : Char} (hc : Delimits c) (n : Int) :
    c ∉ (toString n).toList := by
  intro h
  rcases mem_toString_int h with rfl | hdigit
  · exact absurd hc (by decide)
  · rcases hc with rfl | rfl | rfl <;> exact absurd hdigit (by decide)

theorem toDigits_inj {m n : Nat} (h : Nat.toDigits 10 m = Nat.toDigits 10 n) : m = n := by
  have hread (k : Nat) : Nat.ofDigitChars 10 (Nat.toDigits 10 k) 0 = k :=
    Nat.ofDigitChars_toDigits (by decide) (by decide)
  rw [← hread m, h, hread]

theorem toDigits_ne_minus (n : Nat) (cs : List Char) : Nat.toDigits 10 n ≠ '-' :: cs := by
  intro h
  have hdigit := Nat.isDigit_of_mem_toDigits (by decide) (by decide) (h ▸ List.mem_cons_self)
  exact absurd hdigit (by decide)

theorem toString_int_inj {m n : Int} (h : (toString m).toList = (toString n).toList) : m = n := by
  rw [toList_toString_int, toList_toString_int] at h
  split at h <;> split at h
  · have hmn := toDigits_inj h
    omega
  · exact absurd h (toDigits_ne_minus _ _)
  · exact absurd h.symm (toDigits_ne_minus _ _)
  · have hmn := toDigits_inj (List.cons.inj h).2
    omega

theorem toString_int_ne_nil (n : Int) : (toString n).toList ≠ [] := by
  rw [toList_toString_int]
  split
  · exact Nat.toDigits_ne_nil
  · exact List.cons_ne_nil _ _

theorem Kind.ofLead?_of_number {c : Char} (h : c = '-' ∨ c.isDigit) :
    ofLead? c = some .number := by
  have hne (d : Char) (hd : ¬ (d = '-' ∨ d.isDigit)) : c ≠ d := fun hcd => hd (hcd ▸ h)
  rw [ofLead?, if_neg (hne 'N' (by decide)), if_neg, if_neg (hne '\'' (by decide)),
    if_neg (hne 'X' (by decide)), if_pos h]
  exact fun htruth => htruth.elim (hne 'T' (by decide)) (hne 'F' (by decide))

theorem hexValue_toUpper_digitChar : ∀ n < 16,
    Text.hexValue n.digitChar.toUpper = some n := by
  decide

theorem hexByte_inj {b b' : UInt8} (h : Text.hexByte b = Text.hexByte b') : b = b' := by
  have hvalue (n : Nat) : Text.hexValue (Text.hexDigit n).toUpper = some (n % 16) :=
    hexValue_toUpper_digitChar _ (Nat.mod_lt n (by decide))
  obtain ⟨hhigh, hlow⟩ : (Text.hexDigit (b.toNat / 16)).toUpper =
      (Text.hexDigit (b'.toNat / 16)).toUpper ∧
      (Text.hexDigit b.toNat).toUpper = (Text.hexDigit b'.toNat).toUpper := by
    simpa [Text.hexByte] using h
  have hhigh' := congrArg Text.hexValue hhigh
  have hlow' := congrArg Text.hexValue hlow
  rw [hvalue, hvalue, Option.some.injEq] at hhigh' hlow'
  have hb := b.toNat_lt
  have hb' := b'.toNat_lt
  exact UInt8.toNat_inj.mp (by omega)

theorem flatMap_hexByte_inj {bs bs' : List UInt8}
    (h : bs.flatMap Text.hexByte = bs'.flatMap Text.hexByte) : bs = bs' := by
  induction bs generalizing bs' with
  | nil =>
    cases bs' with
    | nil => rfl
    | cons b' bs' => simp [Text.hexByte] at h
  | cons b bs ih =>
    cases bs' with
    | nil => simp [Text.hexByte] at h
    | cons b' bs' =>
      rw [List.flatMap_cons, List.flatMap_cons] at h
      obtain ⟨hb, hbs⟩ := List.append_inj h rfl
      rw [hexByte_inj hb, ih hbs]

theorem quote_not_mem_hexByte (bs : List UInt8) : '\'' ∉ bs.flatMap Text.hexByte := by
  have hdigit : ∀ n < 16, n.digitChar.toUpper ≠ '\'' := by decide
  intro h
  obtain ⟨b, -, hb⟩ := List.mem_flatMap.mp h
  simp only [Text.hexByte, List.mem_cons, List.not_mem_nil, or_false] at hb
  rcases hb with hb | hb
  · exact hdigit _ (Nat.mod_lt _ (by decide)) hb.symm
  · exact hdigit _ (Nat.mod_lt _ (by decide)) hb.symm

theorem exists_inline_eq_cons {v : Value} (h : ¬ v.isFloat) :
    ∃ c cs, v.inline.toList = c :: cs ∧ Kind.ofLead? c = some v.kind := by
  cases v with
  | null => exact ⟨_, _, rfl, rfl⟩
  | bool b => cases b <;> exact ⟨_, _, rfl, rfl⟩
  | int n =>
    obtain ⟨c, cs, hn⟩ := List.exists_cons_of_ne_nil (toString_int_ne_nil n.toInt)
    exact ⟨c, cs, hn, Kind.ofLead?_of_number (mem_toString_int (hn ▸ List.mem_cons_self))⟩
  | float x => exact absurd rfl h
  | text s => exact ⟨'\'', _, String.toList_ofList, rfl⟩
  | blob bytes => exact ⟨'X', _, String.toList_ofList, rfl⟩

/-- An inline form does not look like a placeholder that has no value. -/
theorem inline_append_ne_mark (v : Value) (xs ys : List Char) :
    v.inline.toList ++ xs ≠ '?' :: ys := by
  obtain ⟨c, cs, hc, hne⟩ : ∃ c cs, v.inline.toList = c :: cs ∧ c ≠ '?' := by
    by_cases hv : v.isFloat
    · cases v with
      | float x =>
        obtain ⟨c, cs, hx⟩ := List.exists_cons_of_ne_nil
          (String.toList_eq_nil_iff.not.mpr x.plain_ne_empty)
        refine ⟨c, cs, hx, ?_⟩
        rintro rfl
        exact x.mark_not_mem_plain (hx ▸ List.mem_cons_self)
      | _ => cases hv
    · obtain ⟨c, cs, hc, hkind⟩ := exists_inline_eq_cons hv
      refine ⟨c, cs, hc, ?_⟩
      rintro rfl
      cases hkind
  rw [hc, List.cons_append]
  exact fun h => hne (List.cons.inj h).1

theorem kind_eq_of_inline {v w : Value} (hv : ¬ v.isFloat) (hw : ¬ w.isFloat) {xs ys : List Char}
    (h : v.inline.toList ++ xs = w.inline.toList ++ ys) : v.kind = w.kind := by
  obtain ⟨c, cs, hc, hkind⟩ := exists_inline_eq_cons hv
  obtain ⟨d, ds, hd, hkind'⟩ := exists_inline_eq_cons hw
  rw [hc, hd, List.cons_append, List.cons_append] at h
  rw [(List.cons.inj h).1, hkind'] at hkind
  exact (Option.some.inj hkind).symm

theorem inline_text_inj {s t : String} {c : Char} (hc : Delimits c) {xs ys : List Char}
    (h : (text s).inline.toList ++ c :: xs = (text t).inline.toList ++ c :: ys) : s = t := by
  have hquote : ¬ Text.Literal.isQuote c := by
    rcases hc with rfl | rfl | rfl <;> decide
  have hs := (Text.Literal.Reads.literal (q := '\'') rfl s).scan c xs hquote
  have ht := (Text.Literal.Reads.literal (q := '\'') rfl t).scan c ys hquote
  have hscan := congrArg (Prod.fst ∘ Text.Literal.scan .outside) h
  simp only [Function.comp_apply, inline, hs, ht] at hscan
  exact String.toList_inj.mp (List.cons.inj hscan).1

/-- In front of a delimiter an inline form ends, so that the value and what follows are
determined. -/
theorem inline_append_inj {v w : Value} (hv : ¬ v.isFloat) (hw : ¬ w.isFloat) {c : Char}
    (hc : Delimits c) {xs ys : List Char}
    (h : v.inline.toList ++ c :: xs = w.inline.toList ++ c :: ys) : v = w ∧ xs = ys := by
  have hkind := kind_eq_of_inline hv hw h
  suffices hvw : v = w by
    subst hvw
    exact ⟨rfl, (List.cons.inj (List.append_cancel_left h)).2⟩
  cases v with
  | float x => exact absurd rfl hv
  | null =>
    cases w with
    | null => rfl
    | _ => cases hkind
  | bool b =>
    cases w with
    | bool b' => cases b <;> cases b' <;> simp_all [inline]
    | _ => cases hkind
  | int n =>
    cases w with
    | int n' =>
      have hn := (append_cons_inj (not_mem_toString_int hc _) (not_mem_toString_int hc _) h).1
      rw [Int64.toInt_inj.mp (toString_int_inj hn)]
    | float x => exact absurd rfl hw
    | _ => cases hkind
  | text s =>
    cases w with
    | text t => rw [inline_text_inj hc h]
    | _ => cases hkind
  | blob bs =>
    cases w with
    | blob bs' =>
      simp only [inline, String.toList_ofList, List.cons_append, List.append_assoc,
        List.cons.injEq, true_and, List.nil_append] at h
      have hbs := (append_cons_inj (quote_not_mem_hexByte bs) (quote_not_mem_hexByte bs') h).1
      rw [flatMap_hexByte_inj hbs]
    | _ => cases hkind

end Value

end BoundSql
