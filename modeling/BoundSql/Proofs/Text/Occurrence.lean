import BoundSql.Text.Blank
import BoundSql.Text.Letters
import BoundSql.Text.Literal

/-! # Occurrences of a word

A word of letters cannot reach across a character that is no letter. So whether a list of literals
mentions a word depends on what the literals spell, not on how they are escaped or put together.
-/

namespace BoundSql.Text

/-- A text of letters only, and of one at least. -/
structure Alphabetic (s : String) : Prop where
  nonempty : s.toList ≠ []
  alpha : ∀ c ∈ s.toList, c.isAlpha

section Separator

variable {needle : List Char} {x : Char}

theorem isPrefixOf_append_cons (hx : x ∉ needle) (a b : List Char) :
    needle.isPrefixOf (a ++ x :: b) = needle.isPrefixOf a := by
  induction needle generalizing a with
  | nil => simp
  | cons n needle ih =>
    rw [List.mem_cons, not_or] at hx
    cases a with
    | nil => simp [List.isPrefixOf_cons_cons, Ne.symm hx.1]
    | cons c a =>
      rw [List.cons_append, List.isPrefixOf_cons_cons, List.isPrefixOf_cons_cons, ih hx.2]

theorem occursIn_append_cons (hx : x ∉ needle) (a b : List Char) :
    occursIn needle (a ++ x :: b) = (occursIn needle a || occursIn needle b) := by
  induction a with
  | nil =>
    have h := isPrefixOf_append_cons hx [] b
    rw [List.nil_append] at h
    rw [List.nil_append, occursIn, occursIn, h]
    cases needle <;> rfl
  | cons c a ih =>
    have h := isPrefixOf_append_cons hx (c :: a) b
    rw [List.cons_append] at h
    rw [List.cons_append, occursIn, occursIn, h, ih, Bool.or_assoc]

variable {q : Char}

theorem isPrefixOf_escape (hback : '\\' ∉ needle) (hq : q ∉ needle) (hlow : q.toLower = q)
    (cs : List Char) : needle.isPrefixOf ((Literal.escape q cs).map Char.toLower) =
      needle.isPrefixOf (cs.map Char.toLower) := by
  induction needle generalizing cs with
  | nil => simp
  | cons n needle ih =>
    have hb : (n == '\\') = false := by
      rw [beq_eq_false_iff_ne]
      exact fun h => hback (h ▸ List.mem_cons_self)
    have hn : (n == q) = false := by
      rw [beq_eq_false_iff_ne]
      exact fun h => hq (h ▸ List.mem_cons_self)
    have hlb : Char.toLower '\\' = '\\' := by decide
    cases cs with
    | nil => rfl
    | cons c cs =>
      rw [Literal.escape]
      split
      next hc => simp [List.isPrefixOf_cons_cons, hc, hb, hlb]
      next hc =>
        split
        next hcq => simp [List.isPrefixOf_cons_cons, hcq, hn, hlow]
        next hcq =>
          rw [List.map_cons, List.map_cons, List.isPrefixOf_cons_cons, List.isPrefixOf_cons_cons,
            ih (fun h => hback (List.mem_cons_of_mem _ h)) (fun h => hq (List.mem_cons_of_mem _ h))]

theorem occursIn_escape (hback : '\\' ∉ needle) (hq : q ∉ needle) (hlow : q.toLower = q)
    (cs : List Char) : occursIn needle ((Literal.escape q cs).map Char.toLower) =
      occursIn needle (cs.map Char.toLower) := by
  induction cs with
  | nil => rfl
  | cons c cs ih =>
    have h := isPrefixOf_escape hback hq hlow (c :: cs)
    have hlb : Char.toLower '\\' = '\\' := by decide
    rw [Literal.escape] at h ⊢
    split
    next hc =>
      have apart (b) := occursIn_append_cons hback [] b
      simp only [List.nil_append] at apart
      simp [hc, hlb, apart, ih]
    next hc =>
      split
      next hcq =>
        have apart (b) := occursIn_append_cons hq [] b
        simp only [List.nil_append] at apart
        simp [hcq, hlow, apart, ih]
      next hcq =>
        rw [if_neg hc, if_neg hcq, List.map_cons, List.map_cons] at h
        rw [List.map_cons, List.map_cons, occursIn, occursIn, h, ih]

end Separator

variable {word : String}

theorem Alphabetic.not_mem (h : Alphabetic word) {x : Char} (hx : ¬ x.isAlpha) : x ∉ word.toList :=
  fun hmem => hx (h.alpha x hmem)

theorem Alphabetic.not_occursIn_nil (h : Alphabetic word) : occursIn word.toList [] = false := by
  simpa [occursIn] using h.nonempty

theorem mentions_lower_quoted (h : Alphabetic word) (s : String) :
    mentions (lower (quoteWith '\'' s)) word = mentions (lower s) word := by
  have hq : '\'' ∉ word.toList := h.not_mem (by decide)
  have hlow : Char.toLower '\'' = '\'' := by decide
  have apart (b) := occursIn_append_cons hq [] b
  simp only [List.nil_append] at apart
  rw [mentions, mentions, lower, lower, quoteWith, Literal.write]
  simp only [String.toList_ofList, List.map_cons, List.map_append, List.map_nil, List.cons_append,
    hlow, apart, occursIn_append_cons hq, h.not_occursIn_nil,
    occursIn_escape (h.not_mem (by decide)) hq hlow, Bool.false_or, Bool.or_false]

theorem mentions_lower_append (h : Alphabetic word) {x : Char} (hx : ¬ x.isAlpha)
    (hlow : x.toLower = x) {sep : String} (hsep : sep.toList = [x]) (s t : String) :
    mentions (lower (s ++ sep ++ t)) word =
      (mentions (lower s) word || mentions (lower t) word) := by
  simp [mentions, lower, hsep, hlow, occursIn_append_cons (h.not_mem hx)]

theorem mentions_lower_literals (h : Alphabetic word) (texts : List String) :
    mentions (lower (",".intercalate (texts.map (quoteWith '\'')))) word =
      texts.any fun s => mentions (lower s) word := by
  induction texts with
  | nil => simpa [mentions, lower] using h.not_occursIn_nil
  | cons s texts ih =>
    cases texts with
    | nil => simp [mentions_lower_quoted h]
    | cons t texts =>
      rw [List.any_cons, ← ih, ← mentions_lower_quoted h s, List.map_cons, List.map_cons,
        String.intercalate_cons_cons,
        mentions_lower_append h (x := ',') (by decide) (by decide) (by decide)]

theorem toLower_of_isDigit {c : Char} (h : c.isDigit) : c.toLower = c := by
  have hup : ¬ (c.val ≥ 'A'.val ∧ c.val ≤ 'Z'.val) := by
    simp only [Char.isDigit, Bool.and_eq_true, decide_eq_true_eq, ge_iff_le,
      UInt32.le_iff_toNat_le, Char.reduceVal, UInt32.reduceToNat] at h ⊢
    omega
  exact dif_neg hup

theorem isAlpha_iff {c : Char} : c.isAlpha ↔
    (65 ≤ c.val.toNat ∧ c.val.toNat ≤ 90) ∨ (97 ≤ c.val.toNat ∧ c.val.toNat ≤ 122) := by
  have halpha : c.isAlpha = (decide (c.val ≥ 'A'.val ∧ c.val ≤ 'Z'.val) ||
      decide (c.val ≥ 'a'.val) && decide (c.val ≤ 'z'.val)) := rfl
  simp only [halpha, Bool.or_eq_true, Bool.and_eq_true, decide_eq_true_eq, ge_iff_le,
    UInt32.le_iff_toNat_le, Char.reduceVal, UInt32.reduceToNat]

theorem not_isAlpha_of_isDigit {c : Char} (h : c.isDigit) : ¬ c.isAlpha := by
  simp only [Char.isDigit, Bool.and_eq_true, decide_eq_true_eq, ge_iff_le, UInt32.le_iff_toNat_le,
    Char.reduceVal, UInt32.reduceToNat] at h
  rw [isAlpha_iff]
  omega

theorem not_isAlpha_of_isBlank {c : Char} (h : isBlank c) : ¬ c.isAlpha := by
  simp only [isBlank, Bool.or_eq_true, Bool.and_eq_true, decide_eq_true_eq, beq_iff_eq,
    Char.le_def, Char.ext_iff, UInt32.le_iff_toNat_le, ← UInt32.toNat_inj, Char.reduceVal,
    UInt32.reduceToNat] at h
  rw [isAlpha_iff]
  omega

theorem toUpper_of_isBlank {c : Char} (h : isBlank c) : c.toUpper = c := by
  have hlow : ¬ (c.val ≥ 'a'.val ∧ c.val ≤ 'z'.val) := by
    intro hlow
    refine not_isAlpha_of_isBlank h (isAlpha_iff.mpr (Or.inr ?_))
    simpa [UInt32.le_iff_toNat_le] using hlow
  exact dif_neg hlow

theorem not_mentions_lower_digits (h : Alphabetic word) {s : String}
    (hs : ∀ c ∈ s.toList, c.isDigit) : mentions (lower s) word = false := by
  have digits (cs : List Char) (hcs : ∀ c ∈ cs, c.isDigit) :
      occursIn word.toList (cs.map Char.toLower) = false := by
    induction cs with
    | nil => exact h.not_occursIn_nil
    | cons c cs ih =>
      rw [List.forall_mem_cons] at hcs
      have hx : c.toLower ∉ word.toList := by
        rw [toLower_of_isDigit hcs.1]
        exact h.not_mem (not_isAlpha_of_isDigit hcs.1)
      have apart := occursIn_append_cons hx [] (cs.map Char.toLower)
      rw [List.nil_append, h.not_occursIn_nil, ih hcs.2] at apart
      exact apart
  simpa [mentions, lower] using digits s.toList hs

end BoundSql.Text
