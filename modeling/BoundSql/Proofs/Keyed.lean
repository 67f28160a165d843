import Mathlib.Data.List.Induction
import Mathlib.Data.List.Nodup

/-! # Lists by their keys

The keys of a list stand in the order of their first use. A list that is sorted by its keys has the
members with one key side by side, and these in the order they had before.
-/

namespace BoundSql

section

variable {α : Type} [DecidableEq α]

theorem eraseDups_concat (as : List α) (a : α) :
    (as ++ [a]).eraseDups = if a ∈ as then as.eraseDups else as.eraseDups ++ [a] := by
  rw [List.eraseDups_append]
  by_cases h : a ∈ as
  · simp [List.removeAll, h]
  · simp [List.removeAll, h, List.eraseDups_cons]

theorem nodup_eraseDups (as : List α) : as.eraseDups.Nodup := by
  induction as using List.reverseRecOn with
  | nil => exact List.nodup_nil
  | append_singleton as a ih =>
    rw [eraseDups_concat]
    split
    next => exact ih
    next h =>
      rw [List.nodup_append]
      refine ⟨ih, List.nodup_singleton a, ?_⟩
      rintro b hb _ hlast rfl
      rw [List.mem_singleton] at hlast
      exact h (hlast ▸ List.mem_eraseDups.mp hb)

end

section

variable {α κ : Type} [DecidableEq κ] (key : α → κ)

theorem filter_eq_nil_of_key {as : List α} {k : κ} (h : k ∉ as.map key) :
    as.filter (key · == k) = [] := by
  rw [List.filter_eq_nil_iff]
  intro a ha hk
  exact h (List.mem_map.mpr ⟨a, ha, eq_of_beq hk⟩)

def byKey (as : List α) : List α :=
  (as.map key).eraseDups.flatMap fun k => as.filter (key · == k)

theorem filter_flatMap_filter {ks : List κ} (h : ks.Nodup) (as : List α) (k : κ) :
    (ks.flatMap fun l => as.filter (key · == l)).filter (key · == k) =
      if k ∈ ks then as.filter (key · == k) else [] := by
  induction ks with
  | nil => rfl
  | cons l ks ih =>
    obtain ⟨hl, hks⟩ := List.nodup_cons.mp h
    rw [List.flatMap_cons, List.filter_append, ih hks, List.filter_filter]
    by_cases hkl : k = l
    · subst hkl
      simp [hl]
    · have hnone : as.filter (fun a => key a == k && key a == l) = [] := by
        rw [List.filter_eq_nil_iff]
        intro a _ ha
        rw [Bool.and_eq_true, beq_iff_eq, beq_iff_eq] at ha
        exact hkl (ha.1.symm.trans ha.2)
      simp [hnone, hkl]

/-- The members with one key keep their order. -/
theorem filter_byKey (as : List α) (k : κ) :
    (byKey key as).filter (key · == k) = as.filter (key · == k) := by
  rw [byKey, filter_flatMap_filter key (nodup_eraseDups _)]
  split
  next => rfl
  next h => exact (filter_eq_nil_of_key key (mt List.mem_eraseDups.mpr h)).symm

theorem perm_byKey (as : List α) : (byKey key as).Perm as := by
  classical
  rw [List.perm_iff_count]
  intro a
  have hcount (bs : List α) : (bs.filter (key · == key a)).count a = bs.count a :=
    List.count_filter (beq_self_eq_true (key a))
  rw [← hcount, filter_byKey, hcount]

end

end BoundSql
