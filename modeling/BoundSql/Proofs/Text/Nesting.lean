import Mathlib.Data.List.Infix

/-! # Nesting of parentheses

A text in parentheses of its own keeps what stands inside apart from what stands around it. Texts of
this kind can be joined by any separator that does not open with a parenthesis: the pieces between
the separators outside parentheses are the texts again, whatever separators stand inside them.
-/

namespace BoundSql.Text

def depth (cs : List Char) : Int :=
  cs.count '(' - cs.count ')'

@[simp] theorem depth_nil : depth [] = 0 := rfl

theorem depth_append (cs ds : List Char) : depth (cs ++ ds) = depth cs + depth ds := by
  simp only [depth, List.count_append]
  omega

theorem depth_cons (c : Char) (cs : List Char) : depth (c :: cs) = depth [c] + depth cs :=
  depth_append [c] cs

/-- A text that closes what it opens: no prefix closes more parentheses than it opens, and the whole
closes as many. -/
structure Balanced (s : String) : Prop where
  opened : ∀ p, p <+: s.toList → p.count ')' ≤ p.count '('
  closed : s.toList.count ')' = s.toList.count '('

/-- A balanced text that starts with a parenthesis, which only the last character closes. -/
structure Bracketed (s : String) : Prop where
  balanced : Balanced s
  opens : s.toList.head? = some '('
  inside : ∀ p, p <+: s.toList → p ≠ [] → p ≠ s.toList → p.count ')' < p.count '('

instance (s : String) : Decidable (Balanced s) :=
  decidable_of_iff ((∀ p ∈ s.toList.inits, p.count ')' ≤ p.count '(') ∧
      s.toList.count ')' = s.toList.count '(') <| by
    simp only [List.mem_inits]
    exact ⟨fun h => ⟨h.1, h.2⟩, fun h => ⟨h.opened, h.closed⟩⟩

theorem prefix_append_cases {p cs ds : List Char} (h : p <+: cs ++ ds) :
    p <+: cs ∨ ∃ q, q <+: ds ∧ p = cs ++ q := by
  rcases List.prefix_or_prefix_of_prefix h (List.prefix_append cs ds) with h' | ⟨q, rfl⟩
  · exact .inl h'
  · exact .inr ⟨q, (List.prefix_append_right_inj cs).mp h, rfl⟩

namespace Balanced

variable {s t : String}

theorem append (hs : Balanced s) (ht : Balanced t) : Balanced (s ++ t) where
  opened := by
    intro p hp
    rw [String.toList_append] at hp
    rcases prefix_append_cases hp with hp | ⟨q, hq, rfl⟩
    · exact hs.opened p hp
    · rw [List.count_append, List.count_append, hs.closed]
      exact Nat.add_le_add_left (ht.opened q hq) _
  closed := by
    rw [String.toList_append, List.count_append, List.count_append, hs.closed, ht.closed]

theorem intercalate {sep : String} (hsep : Balanced sep) {ss : List String}
    (h : ∀ s ∈ ss, Balanced s) : Balanced (sep.intercalate ss) := by
  induction ss with
  | nil => simpa using (by decide : Balanced "")
  | cons s ss ih =>
    rw [List.forall_mem_cons] at h
    cases ss with
    | nil => simpa using h.1
    | cons t ss =>
      rw [String.intercalate_cons_cons]
      exact (h.1.append hsep).append (ih h.2)

end Balanced

theorem toList_parenthesized (s : String) :
    ("(" ++ s ++ ")").toList = '(' :: (s.toList ++ [')']) := by
  rw [String.toList_append, String.toList_append]
  rfl

theorem Balanced.bracketed {s : String} (h : Balanced s) : Bracketed ("(" ++ s ++ ")") := by
  have hclosed : ("(" ++ s ++ ")").toList.count ')' = ("(" ++ s ++ ")").toList.count '(' := by
    rw [toList_parenthesized]
    simp [h.closed]
  have inside : ∀ p, p <+: ("(" ++ s ++ ")").toList → p ≠ [] → p ≠ ("(" ++ s ++ ")").toList →
      p.count ')' < p.count '(' := by
    intro p hp hne hall
    rw [toList_parenthesized] at hp hall
    rcases List.prefix_cons_iff.mp hp with rfl | ⟨front, rfl, hfront⟩
    · exact absurd rfl hne
    rcases prefix_append_cases hfront with hfront | ⟨last, hlast, rfl⟩
    · have := h.opened front hfront
      simp
      omega
    · rcases List.prefix_cons_iff.mp hlast with rfl | ⟨rest, rfl, hrest⟩
      · simp [h.closed]
      · rw [List.prefix_nil.mp hrest] at hall
        exact absurd rfl hall
  refine ⟨⟨fun p hp => ?_, hclosed⟩, by rw [toList_parenthesized]; rfl, inside⟩
  by_cases hne : p = []
  · simp [hne]
  by_cases hall : p = ("(" ++ s ++ ")").toList
  · rw [hall, hclosed]
  · exact (inside p hp hne hall).le

def unwrap (s : String) : String :=
  String.ofList s.toList.tail.dropLast

theorem unwrap_parenthesized (s : String) : unwrap ("(" ++ s ++ ")") = s := by
  rw [unwrap, toList_parenthesized, List.tail_cons, List.dropLast_concat, String.ofList_toList]

/-- The pieces of `cs` between the separators outside parentheses, of which `d` are open in
front. -/
def splitOutsideChars (sep : List Char) (d : Int) : List Char → List (List Char)
  | [] => [[]]
  | c :: cs =>
    if d = 0 ∧ sep.isPrefixOf (c :: cs) then
      [] :: splitOutsideChars sep 0 (cs.drop (sep.length - 1))
    else (splitOutsideChars sep (d + depth [c]) cs).modifyHead (c :: ·)
  termination_by cs => cs.length

/-- The pieces of a text between the separators that stand outside its parentheses. -/
def splitOutside (sep s : String) : List String :=
  (splitOutsideChars sep.toList 0 s.toList).map String.ofList

theorem splitOutsideChars_append {sep cs : List Char} {d : Int}
    (h : ∀ p, p <+: cs → p ≠ cs → d + depth p ≠ 0) (ds : List Char) :
    splitOutsideChars sep d (cs ++ ds) =
      (splitOutsideChars sep (d + depth cs) ds).modifyHead (cs ++ ·) := by
  induction cs generalizing d with
  | nil =>
    rw [List.nil_append, depth_nil, Int.add_zero]
    exact (congrFun List.modifyHead_id _).symm
  | cons c cs ih =>
    have hd : d ≠ 0 := by
      simpa using h [] List.nil_prefix (List.cons_ne_nil _ _).symm
    have hcs : ∀ p, p <+: cs → p ≠ cs → d + depth [c] + depth p ≠ 0 := by
      intro p hp hne
      rw [Int.add_assoc, ← depth_cons]
      exact h (c :: p) (List.cons_prefix_cons.mpr ⟨rfl, hp⟩) (by simpa using hne)
    rw [List.cons_append, splitOutsideChars, if_neg fun h => hd h.1, ih hcs, depth_cons c cs,
      Int.add_assoc, List.modifyHead_modifyHead]
    rfl

/-- No piece ends in a bracketed text, as long as the separator does not open with a
parenthesis. -/
theorem Bracketed.splitOutsideChars_append {s : String} (hs : Bracketed s) {sep : List Char}
    (hsep : sep.head? ≠ some '(') (hne : sep ≠ []) (ds : List Char) :
    splitOutsideChars sep 0 (s.toList ++ ds) =
      (splitOutsideChars sep 0 ds).modifyHead (s.toList ++ ·) := by
  obtain ⟨cs, hcs⟩ : ∃ cs, s.toList = '(' :: cs := List.head?_eq_some_iff.mp hs.opens
  have hdepth : depth s.toList = 0 := by
    have := hs.balanced.closed
    rw [depth]
    omega
  have hopen : ∀ p, p <+: cs → p ≠ cs → 0 + depth ['('] + depth p ≠ 0 := by
    intro p hp hne
    have := hs.inside ('(' :: p) (hcs ▸ List.cons_prefix_cons.mpr ⟨rfl, hp⟩)
      (List.cons_ne_nil _ _) (by simpa [hcs] using hne)
    rw [Int.zero_add, ← depth_cons, depth]
    omega
  have hfront : ¬ sep.isPrefixOf ('(' :: (cs ++ ds)) := by
    cases sep with
    | nil => exact absurd rfl hne
    | cons a sep => simpa using fun h => absurd (congrArg some h) hsep
  rw [hcs, depth_cons] at hdepth
  rw [hcs, List.cons_append, splitOutsideChars, if_neg fun h => hfront h.2,
    Text.splitOutsideChars_append hopen, Int.zero_add, hdepth, List.modifyHead_modifyHead]
  rfl

section

variable {sep s t : String}

theorem splitOutside_empty : splitOutside sep "" = [""] := by
  rw [splitOutside, String.toList_empty, splitOutsideChars]
  rfl

theorem splitOutside_separator (hsep : sep ≠ "") :
    splitOutside sep (sep ++ t) = "" :: splitOutside sep t := by
  obtain ⟨a, as, ha⟩ : ∃ a as, sep.toList = a :: as :=
    List.exists_cons_of_ne_nil (by simpa using hsep)
  have hprefix : (a :: as).isPrefixOf (a :: (as ++ t.toList)) := by
    simp
  rw [splitOutside, String.toList_append, ha, List.cons_append, splitOutsideChars,
    if_pos ⟨rfl, hprefix⟩, List.length_cons, Nat.add_sub_cancel, List.drop_left, splitOutside, ha]
  rfl

theorem Bracketed.splitOutside_append (hs : Bracketed s) (hsep : sep.toList.head? ≠ some '(')
    (hne : sep ≠ "") : splitOutside sep (s ++ t) = (splitOutside sep t).modifyHead (s ++ ·) := by
  rw [splitOutside, String.toList_append, hs.splitOutsideChars_append hsep (by simpa using hne),
    splitOutside]
  cases splitOutsideChars sep.toList 0 t.toList with
  | nil => rfl
  | cons piece pieces => simp

/-- Bracketed texts are the pieces between the separators that join them. -/
theorem splitOutside_intercalate (hsep : sep.toList.head? ≠ some '(') (hne : sep ≠ "")
    {ss : List String} (h : ∀ s ∈ ss, Bracketed s) (hss : ss ≠ []) :
    splitOutside sep (sep.intercalate ss) = ss := by
  induction ss with
  | nil => exact absurd rfl hss
  | cons s ss ih =>
    rw [List.forall_mem_cons] at h
    cases ss with
    | nil =>
      have hs := h.1.splitOutside_append (t := "") hsep hne
      simpa [splitOutside_empty] using hs
    | cons t ss =>
      rw [String.intercalate_cons_cons, String.append_assoc, h.1.splitOutside_append hsep hne,
        splitOutside_separator hne, ih h.2 (List.cons_ne_nil _ _)]
      simp

end

end BoundSql.Text
