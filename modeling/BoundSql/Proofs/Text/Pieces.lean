import BoundSql.Text.Blank
import Mathlib.Data.List.Basic
import Mathlib.Data.List.TakeWhile

/-! # Pieces of a text

What cutting a text at a character gives, and what taking the white space around it away, can be
told from the pieces: there is one way to write a text as pieces without the character, and one core
that is bare of white space at both ends.
-/

namespace BoundSql.Text

theorem splitChars_append {sep : Char} {cs : List Char} (h : sep ∉ cs) (rest : List Char) :
    splitChars sep (cs ++ sep :: rest) = cs :: splitChars sep rest := by
  induction cs with
  | nil => simp [splitChars]
  | cons c cs ih =>
    obtain ⟨hc, hcs⟩ := not_or.mp (List.mem_cons.not.mp h)
    have hne : (c == sep) = false := beq_false_of_ne (Ne.symm hc)
    rw [List.cons_append, splitChars, hne, ih hcs]
    rfl

theorem splitChars_ne_nil (sep : Char) (cs : List Char) : splitChars sep cs ≠ [] := by
  cases cs with
  | nil => exact List.cons_ne_nil _ _
  | cons c cs =>
    rw [splitChars]
    split
    · exact List.cons_ne_nil _ _
    · split <;> exact List.cons_ne_nil _ _

theorem splitChars_eq_splitOn (sep : Char) (cs : List Char) :
    splitChars sep cs = cs.splitOn sep := by
  induction cs with
  | nil => rfl
  | cons c cs ih =>
    rw [splitChars, List.splitOn_eq_splitOnP, List.splitOnP_cons_eq_if_modifyHead,
      ← List.splitOn_eq_splitOnP, ← ih]
    split
    · rfl
    · cases hpieces : splitChars sep cs with
      | nil => exact absurd hpieces (splitChars_ne_nil sep cs)
      | cons piece pieces => rfl

theorem not_mem_of_mem_splitChars {sep : Char} {cs piece : List Char}
    (h : piece ∈ splitChars sep cs) : sep ∉ piece := by
  induction cs generalizing piece with
  | nil =>
    rw [splitChars, List.mem_singleton] at h
    simp [h]
  | cons c cs ih =>
    rw [splitChars] at h
    split at h
    next =>
      rcases List.mem_cons.mp h with rfl | h
      · exact List.not_mem_nil
      · exact ih h
    next hc =>
      have hsep : sep ≠ c := fun hsep => hc (beq_iff_eq.mpr hsep.symm)
      cases hpieces : splitChars sep cs with
      | nil => exact absurd hpieces (splitChars_ne_nil sep cs)
      | cons first others =>
        rw [hpieces] at h ih
        rcases List.mem_cons.mp h with rfl | h
        · exact List.not_mem_cons_of_ne_of_not_mem hsep (ih List.mem_cons_self)
        · exact ih (List.mem_cons_of_mem first h)

/-- Some pieces, none of them with `sep` in it, that a text is made of with `sep` between them. -/
structure CutInto (sep : Char) (s : String) (pieces : List String) : Prop where
  ne_nil : pieces ≠ []
  free : ∀ piece ∈ pieces, sep ∉ piece.toList
  joined : (String.singleton sep).intercalate pieces = s

theorem cutInto_iff {sep : Char} {s : String} {pieces : List String} :
    CutInto sep s pieces ↔ split sep s = pieces := by
  have hjoined : (String.singleton sep).intercalate pieces = s ↔
      [sep].intercalate (pieces.map String.toList) = s.toList := by
    rw [← String.toList_inj, String.toList_intercalate, String.toList_singleton]
  constructor
  · rintro ⟨hne, hfree, hs⟩
    have hfree' : ∀ cs ∈ pieces.map String.toList, sep ∉ cs := List.forall_mem_map.mpr hfree
    rw [split, splitChars_eq_splitOn, ← hjoined.mp hs,
      List.splitOn_intercalate sep hfree' (by simpa using hne)]
    simp
  · rintro rfl
    refine ⟨?_, ?_, hjoined.mpr ?_⟩
    · rw [split, ne_eq, List.map_eq_nil_iff]
      exact splitChars_ne_nil sep _
    · rw [split, List.forall_mem_map]
      intro cs hcs
      rw [String.toList_ofList]
      exact not_mem_of_mem_splitChars hcs
    · have hlists : (split sep s).map String.toList = s.toList.splitOn sep := by
        simp [split, splitChars_eq_splitOn]
      rw [hlists]
      exact List.intercalate_splitOn sep

section

variable {α : Type} {p : α → Bool} {l front rest : List α}

theorem takeWhile_dropWhile_of_append (hfront : ∀ a ∈ front, p a)
    (hrest : ∀ a ∈ rest.head?, ¬ p a) :
    (front ++ rest).takeWhile p = front ∧ (front ++ rest).dropWhile p = rest := by
  rw [List.takeWhile_append_of_pos hfront, List.dropWhile_append_of_pos hfront]
  cases rest with
  | nil => simp
  | cons a rest =>
    have ha := hrest a rfl
    rw [List.takeWhile_cons_of_neg ha, List.dropWhile_cons_of_neg ha, List.append_nil]
    exact ⟨rfl, rfl⟩

theorem not_of_mem_head?_dropWhile {a : α} (h : a ∈ (l.dropWhile p).head?) : ¬ p a := by
  have hhead := List.head?_dropWhile_not p l
  rw [Option.mem_def.mp h] at hhead
  simpa using hhead

end

theorem trimChars_of_bare {front core back : List Char} (hfront : ∀ c ∈ front, isBlank c)
    (hback : ∀ c ∈ back, isBlank c) (hfirst : ∀ c ∈ core.head?, ¬ isBlank c)
    (hlast : ∀ c ∈ core.getLast?, ¬ isBlank c) : trimChars (front ++ (core ++ back)) = core := by
  have hdrop : ((core ++ back).dropWhile isBlank).reverse = back.reverse ++ core.reverse ∨
      core = [] ∧ (core ++ back).dropWhile isBlank = [] := by
    cases core with
    | nil => exact Or.inr ⟨rfl, List.dropWhile_eq_nil_iff.mpr hback⟩
    | cons c core =>
      left
      rw [List.cons_append, List.dropWhile_cons_of_neg (hfirst c rfl), ← List.cons_append,
        List.reverse_append]
  rw [trimChars, List.dropWhile_append_of_pos hfront]
  rcases hdrop with hdrop | ⟨rfl, hdrop⟩
  · have hback' : ∀ c ∈ back.reverse, isBlank c := by simpa using hback
    have hlast' : ∀ c ∈ core.reverse.head?, ¬ isBlank c := by simpa using hlast
    rw [hdrop, (takeWhile_dropWhile_of_append hback' hlast').2, List.reverse_reverse]
  · rw [hdrop]
    rfl

theorem bare_trimChars (cs : List Char) :
    ∃ front back, cs = front ++ (trimChars cs ++ back) ∧ (∀ c ∈ front, isBlank c) ∧
      (∀ c ∈ back, isBlank c) ∧ (∀ c ∈ (trimChars cs).head?, ¬ isBlank c) ∧
      ∀ c ∈ (trimChars cs).getLast?, ¬ isBlank c := by
  obtain ⟨back, hback, hrest⟩ : ∃ back, (∀ c ∈ back, isBlank c) ∧
      cs.dropWhile isBlank = trimChars cs ++ back := by
    refine ⟨((cs.dropWhile isBlank).reverse.takeWhile isBlank).reverse, ?_, ?_⟩
    · intro c hc
      exact List.mem_takeWhile_imp (List.mem_reverse.mp hc)
    · rw [trimChars, ← List.reverse_append, List.takeWhile_append_dropWhile, List.reverse_reverse]
  refine ⟨cs.takeWhile isBlank, back, ?_, ?_, hback, ?_, ?_⟩
  · rw [← hrest, List.takeWhile_append_dropWhile]
  · intro c hc
    exact List.mem_takeWhile_imp hc
  · intro c hc
    have hhead : c ∈ (cs.dropWhile isBlank).head? := by
      rw [hrest, List.head?_append, Option.mem_def.mp hc]
      rfl
    exact not_of_mem_head?_dropWhile hhead
  · intro c hc
    rw [trimChars, List.getLast?_reverse] at hc
    exact not_of_mem_head?_dropWhile hc

theorem not_blank_append {s : String} (h : ¬ blank s) (t : String) : ¬ blank (s ++ t) := by
  intro hst
  rw [blank, String.toList_append, List.all_append, Bool.and_eq_true] at hst
  exact h hst.1

/-- A text that is another one with white space around it; the other has none at its ends. -/
structure TrimsTo (s core : String) : Prop where
  around : ∃ front back, s = front ++ core ++ back ∧ blank front ∧ blank back
  first : ∀ c ∈ core.toList.head?, ¬ isBlank c
  last : ∀ c ∈ core.toList.getLast?, ¬ isBlank c

theorem trimsTo_iff {s core : String} : TrimsTo s core ↔ trim s = core := by
  constructor
  · rintro ⟨⟨front, back, rfl, hfront, hback⟩, hfirst, hlast⟩
    rw [blank, List.all_eq_true] at hfront hback
    rw [trim, String.toList_append, String.toList_append, List.append_assoc,
      trimChars_of_bare hfront hback hfirst hlast, String.ofList_toList]
  · rintro rfl
    obtain ⟨front, back, hs, hfront, hback, hfirst, hlast⟩ := bare_trimChars s.toList
    refine ⟨⟨.ofList front, .ofList back, ?_, ?_, ?_⟩, ?_, ?_⟩
    · rw [← String.toList_inj]
      simpa [trim] using hs
    · simpa [blank] using hfront
    · simpa [blank] using hback
    · simpa [trim] using hfirst
    · simpa [trim] using hlast

end BoundSql.Text
