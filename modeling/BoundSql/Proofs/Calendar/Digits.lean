import BoundSql.Calendar
import Mathlib.Data.String.Basic

/-! # Texts of digits

Texts of one length are compared character by character from the left. So digits that are filled up
with zeros to one width compare as their numbers do, and fields of digits, one behind the other, as
the one number that they make up.
-/

namespace BoundSql.Calendar

theorem append_lt_append_iff {s t u v : String} (h : s.length = t.length) :
    s ++ u < t ++ v ↔ s < t ∨ s = t ∧ u < v := by
  have hchars {xs ys us vs : List Char} (h : xs.length = ys.length) :
      xs ++ us < ys ++ vs ↔ xs < ys ∨ xs = ys ∧ us < vs := by
    induction xs generalizing ys with
    | nil =>
      obtain rfl := List.length_eq_zero_iff.mp h.symm
      simp
    | cons x xs ih =>
      cases ys with
      | nil => cases h
      | cons y ys =>
        rw [List.cons_append, List.cons_append, List.cons_lt_cons_iff, List.cons_lt_cons_iff,
          ih (Nat.succ.inj h), List.cons.injEq]
        tauto
  rw [String.lt_iff, String.lt_iff, String.lt_iff, ← String.toList_inj, String.toList_append,
    String.toList_append]
  exact hchars (by rwa [String.length_toList, String.length_toList])

theorem append_eq_append_iff {s t u v : String} (h : s.length = t.length) :
    s ++ u = t ++ v ↔ s = t ∧ u = v := by
  refine ⟨fun happ => ?_, by rintro ⟨rfl, rfl⟩; rfl⟩
  rw [← String.toList_inj, String.toList_append, String.toList_append] at happ
  exact (List.append_inj happ (by rwa [String.length_toList, String.length_toList])).imp
    String.toList_inj.mp String.toList_inj.mp

theorem mul_add_lt_iff {base j k m n : Nat} (hm : m < base) (hn : n < base) :
    j * base + m < k * base + n ↔ j < k ∨ j = k ∧ m < n := by
  rcases Nat.lt_trichotomy j k with h | rfl | h
  · have hle : (j + 1) * base ≤ k * base := Nat.mul_le_mul_right base h
    rw [Nat.succ_mul] at hle
    omega
  · omega
  · have hle : (k + 1) * base ≤ j * base := Nat.mul_le_mul_right base h
    rw [Nat.succ_mul] at hle
    omega

theorem mul_add_eq_iff {base j k m n : Nat} (hm : m < base) (hn : n < base) :
    j * base + m = k * base + n ↔ j = k ∧ m = n := by
  have hlt := mul_add_lt_iff (j := j) (k := k) hm hn
  have hgt := mul_add_lt_iff (j := k) (k := j) hn hm
  omega

theorem mul_add_le_iff {base j k m n : Nat} (hm : m < base) (hn : n < base) :
    j * base + m ≤ k * base + n ↔ j < k ∨ j = k ∧ m ≤ n := by
  have hlt := mul_add_lt_iff (j := j) (k := k) hm hn
  have heq := mul_add_eq_iff (j := j) (k := k) hm hn
  omega

/-- Two texts of one length that compare as two numbers do. -/
structure Aligned (s t : String) (m n : Nat) : Prop where
  length_eq : s.length = t.length
  lt_iff : s < t ↔ m < n
  eq_iff : s = t ↔ m = n

namespace Aligned

variable {s t u v : String} {j k m n base : Nat}

theorem le_iff (h : Aligned s t m n) : s ≤ t ↔ m ≤ n := by
  rw [le_iff_lt_or_eq, h.lt_iff, h.eq_iff, Nat.le_iff_lt_or_eq]

theorem append (h : Aligned s t j k) (h' : Aligned u v m n) (hm : m < base) (hn : n < base) :
    Aligned (s ++ u) (t ++ v) (j * base + m) (k * base + n) where
  length_eq := by rw [String.length_append, String.length_append, h.length_eq, h'.length_eq]
  lt_iff := by
    rw [append_lt_append_iff h.length_eq, mul_add_lt_iff hm hn, h.lt_iff, h.eq_iff, h'.lt_iff]
  eq_iff := by
    rw [append_eq_append_iff h.length_eq, mul_add_eq_iff hm hn, h.eq_iff, h'.eq_iff]

theorem append_same (h : Aligned s t m n) (a : String) : Aligned (s ++ a) (t ++ a) m n := by
  have ha : Aligned a a 0 0 := ⟨rfl, by simp, by simp⟩
  simpa using h.append ha Nat.one_pos Nat.one_pos

end Aligned

theorem aligned_digit {m n : Nat} (hm : m < 10) (hn : n < 10) :
    Aligned (String.singleton m.digitChar) (String.singleton n.digitChar) m n := by
  have hlt : ∀ m < 10, ∀ n < 10, (m.digitChar < n.digitChar ↔ m < n) := by decide
  have heq : ∀ m < 10, ∀ n < 10, (m.digitChar = n.digitChar ↔ m = n) := by decide
  refine ⟨by simp, ?_, ?_⟩
  · rw [String.lt_iff, String.toList_singleton, String.toList_singleton, List.cons_lt_cons_iff,
      hlt m hm n hn]
    simp
  · simp [← String.toList_inj, heq m hm n hn]

theorem padded_succ {w n : Nat} (hw : 0 < w) :
    padded (w + 1) n = padded w (n / 10) ++ String.singleton (n % 10).digitChar := by
  rw [← String.toList_inj]
  simp only [padded, String.toList_append, String.toList_ofList, String.toList_singleton]
  rcases Nat.lt_or_ge n 10 with hn | hn
  · rw [Nat.div_eq_of_lt hn, Nat.mod_eq_of_lt hn, Nat.toDigits_of_lt_base hn, Nat.toDigits_zero]
    obtain ⟨w, rfl⟩ := Nat.exists_eq_add_of_lt hw
    simp [List.replicate_succ']
  · rw [Nat.toDigits_of_base_le (by decide) hn]
    simp

theorem aligned_padded {w m n : Nat} (hw : 0 < w) (hm : m < 10 ^ w) (hn : n < 10 ^ w) :
    Aligned (padded w m) (padded w n) m n := by
  induction w, hw using Nat.le_induction generalizing m n with
  | base =>
    have hone {k : Nat} (hk : k < 10) : padded 1 k = String.singleton k.digitChar := by
      rw [← String.toList_inj, padded, Nat.toDigits_of_lt_base hk]
      simp
    rw [hone hm, hone hn]
    exact aligned_digit hm hn
  | succ w hw ih =>
    have hdiv {k : Nat} (hk : k < 10 ^ (w + 1)) : k / 10 < 10 ^ w :=
      Nat.div_lt_of_lt_mul (by rwa [Nat.pow_succ'] at hk)
    have hlast (k : Nat) : k % 10 < 10 := Nat.mod_lt k (by decide)
    have h := (ih (hdiv hm) (hdiv hn)).append (aligned_digit (hlast m) (hlast n))
      (hlast m) (hlast n)
    rwa [← padded_succ hw, ← padded_succ hw, Nat.div_add_mod', Nat.div_add_mod'] at h

end BoundSql.Calendar
