import BoundSql.Proofs.Text.Occurrence
import BoundSql.Proofs.Text.Pieces
import Mathlib

/-! # Spellings of a text

The words of a text are its runs of characters that are not white space. Another case of its letters
and other white space in front of, behind and between its words spell the text in another way. Two
texts are spellings of each other exactly if their words agree up to case.
-/

namespace BoundSql.Text

theorem upper_lower (s : String) : upper (lower s) = upper s := by
  rw [upper, upper, lower, String.toList_ofList, List.map_map]
  exact congrArg String.ofList (List.map_congr_left fun c _ => c.toUpper_toLower_eq_toUpper)

theorem lower_upper (s : String) : lower (upper s) = lower s := by
  rw [lower, lower, upper, String.toList_ofList, List.map_map]
  exact congrArg String.ofList (List.map_congr_left fun c _ => c.toLower_toUpper_eq_toLower)

theorem sameName_iff_upper {s t : String} : sameName s t ↔ upper s = upper t := by
  rw [sameName_iff]
  constructor
  · intro h
    rw [← upper_lower s, h, upper_lower]
  · intro h
    rw [← lower_upper s, h, lower_upper]

theorem upper_append (s t : String) : upper (s ++ t) = upper s ++ upper t := by
  simp [upper]

theorem upper_intercalate (texts : List String) :
    upper (" ".intercalate texts) = " ".intercalate (texts.map upper) := by
  have hspace : upper " " = " " := by decide
  induction texts with
  | nil => rfl
  | cons s texts ih =>
    cases texts with
    | nil => simp
    | cons t texts =>
      rw [String.intercalate_cons_cons, upper_append, upper_append, ih, hspace]
      simp [String.intercalate_cons_cons]

theorem isBlank_toUpper (c : Char) : isBlank c.toUpper = isBlank c := by
  by_cases h : c.isAlpha
  · have hcapital : c.toUpper.isAlpha := c.isAlpha_toUpper_eq_isAlpha.trans h
    rw [Bool.eq_iff_iff]
    exact iff_of_false (not_isAlpha_of_isBlank · hcapital) (not_isAlpha_of_isBlank · h)
  · have hlow : ¬ c.isLower := fun hlow => h (by simp [Char.isAlpha, hlow])
    rw [Char.toUpper_eq_of_not_isLower hlow]

def wordChars (cs : List Char) : List (List Char) :=
  (cs.splitOnP isBlank).filter (!·.isEmpty)

def words (s : String) : List String :=
  (wordChars s.toList).map String.ofList

/-- A text is a run of characters that are not blank, or such a run in front of a blank and the rest
of the text. -/
@[elab_as_elim]
theorem run_induction {motive : List Char → Prop}
    (run : ∀ cs, (∀ c ∈ cs, isBlank c = false) → motive cs)
    (cut : ∀ cs x rest, (∀ c ∈ cs, isBlank c = false) → isBlank x → motive rest →
      motive (cs ++ x :: rest))
    (cs : List Char) : motive cs := by
  -- What stands in front of the characters to come is a run that has not ended.
  suffices h : ∀ front, (∀ c ∈ front, isBlank c = false) → motive (front ++ cs) from
    h [] (List.forall_mem_nil _)
  induction cs with
  | nil =>
    intro front hfront
    rw [List.append_nil]
    exact run front hfront
  | cons c cs ih =>
    intro front hfront
    by_cases hc : isBlank c
    · exact cut front c cs hfront hc (ih [] (List.forall_mem_nil _))
    · have hlonger : ∀ d ∈ front ++ [c], isBlank d = false := by
        rw [List.forall_mem_append, List.forall_mem_singleton]
        exact ⟨hfront, (Bool.not_eq_true _).mp hc⟩
      have hrest := ih (front ++ [c]) hlonger
      rwa [List.append_assoc, List.singleton_append] at hrest

section

variable {cs blanks : List Char}

theorem wordChars_append_cons {x : Char} (hx : isBlank x) (a b : List Char) :
    wordChars (a ++ x :: b) = wordChars a ++ wordChars b := by
  rw [wordChars, List.splitOnP_append_cons a b hx, List.filter_append]
  rfl

theorem wordChars_run (h : ∀ c ∈ cs, isBlank c = false) :
    wordChars cs = if cs = [] then [] else [cs] := by
  rw [wordChars, List.splitOnP_eq_singleton h]
  cases cs <;> simp

theorem wordChars_blanks_append (h : ∀ c ∈ blanks, isBlank c) :
    wordChars (blanks ++ cs) = wordChars cs := by
  induction blanks with
  | nil => rfl
  | cons x blanks ih =>
    obtain ⟨hx, hblanks⟩ := List.forall_mem_cons.mp h
    have hcut := wordChars_append_cons hx [] (blanks ++ cs)
    rwa [ih hblanks] at hcut

theorem wordChars_map_toUpper (cs : List Char) :
    wordChars (cs.map Char.toUpper) = (wordChars cs).map (·.map Char.toUpper) := by
  have hrun {cs : List Char} (h : ∀ c ∈ cs, isBlank c = false) :
      ∀ c ∈ cs.map Char.toUpper, isBlank c = false :=
    List.forall_mem_map.mpr fun c hc => (isBlank_toUpper c).trans (h c hc)
  induction cs using run_induction with
  | run cs h =>
    rw [wordChars_run h, wordChars_run (hrun h)]
    cases cs <;> simp
  | cut cs x rest h hx ih =>
    have hx' : isBlank x.toUpper := (isBlank_toUpper x).trans hx
    rw [List.map_append, List.map_cons, wordChars_append_cons hx', wordChars_append_cons hx, ih,
      wordChars_run h, wordChars_run (hrun h), List.map_append]
    cases cs <;> simp

theorem takeWhile_dropWhile_run (hne : cs ≠ []) (h : ∀ c ∈ cs, isBlank c = false)
    (rest : List Char) (hrest : ∀ c ∈ rest.head?, isBlank c) :
    ((cs ++ rest).dropWhile isBlank).takeWhile (!isBlank ·) = cs := by
  have hstart : (cs ++ rest).dropWhile isBlank = cs ++ rest := by
    obtain ⟨c, cs, rfl⟩ := List.exists_cons_of_ne_nil hne
    rw [List.cons_append, List.dropWhile_cons_of_neg (by simp [h c List.mem_cons_self])]
  rw [hstart]
  exact (takeWhile_dropWhile_of_append (by simpa using h) (by simpa using hrest)).1

theorem takeWhile_dropWhile_eq_headD (cs : List Char) :
    (cs.dropWhile isBlank).takeWhile (!isBlank ·) = (wordChars cs).headD [] := by
  induction cs using run_induction with
  | run cs h =>
    rw [wordChars_run h]
    by_cases hne : cs = []
    · rw [hne]
      rfl
    · have hlead := takeWhile_dropWhile_run hne h [] (by simp)
      rw [List.append_nil] at hlead
      rw [hlead, if_neg hne]
      rfl
  | cut cs x rest h hx ih =>
    rw [wordChars_append_cons hx, wordChars_run h]
    by_cases hne : cs = []
    · rw [if_pos hne, hne, List.nil_append, List.nil_append, List.dropWhile_cons_of_pos hx, ih]
    · rw [if_neg hne, takeWhile_dropWhile_run hne h _ (by simpa using hx)]
      rfl

theorem occursIn_eq_any_wordChars {word : String} (h : Alphabetic word) (cs : List Char) :
    occursIn word.toList cs = (wordChars cs).any (occursIn word.toList) := by
  have hrun {cs : List Char} (hcs : ∀ c ∈ cs, isBlank c = false) :
      occursIn word.toList cs = (wordChars cs).any (occursIn word.toList) := by
    rw [wordChars_run hcs]
    cases cs <;> simp [h.not_occursIn_nil]
  induction cs using run_induction with
  | run cs hcs => exact hrun hcs
  | cut cs x rest hcs hx ih =>
    rw [occursIn_append_cons (h.not_mem (not_isAlpha_of_isBlank hx)), wordChars_append_cons hx,
      List.any_append, ih, hrun hcs]

end

section

variable {s t b word : String}

theorem words_empty : words "" = [] :=
  rfl

theorem words_run (hne : s ≠ "") (h : ∀ c ∈ s.toList, isBlank c = false) : words s = [s] := by
  have hchars : s.toList ≠ [] := mt String.toList_eq_nil_iff.mp hne
  rw [words, wordChars_run h, if_neg hchars, List.map_singleton, String.ofList_toList]

theorem words_blank_append (hb : blank b) : words (b ++ s) = words s := by
  rw [words, String.toList_append, wordChars_blanks_append (List.all_eq_true.mp hb), words]

theorem words_upper (s : String) : words (upper s) = (words s).map upper := by
  simp [words, upper, wordChars_map_toUpper, Function.comp_def]

theorem firstWord_eq (s : String) : firstWord s = (words s).headD "" := by
  rw [firstWord, takeWhile_dropWhile_eq_headD, words]
  cases wordChars s.toList <;> rfl

/-- A word of letters stands in a text if it stands in one of the words of the text. -/
theorem mentions_eq_any_words (h : Alphabetic word) (s : String) :
    mentions s word = (words s).any (mentions · word) := by
  simp [mentions, words, occursIn_eq_any_wordChars h s.toList, Function.comp_def]

structure Gap (b : String) : Prop where
  white : blank b
  ne_empty : b ≠ ""

theorem gap_space : Gap " " :=
  ⟨by decide, by decide⟩

theorem Gap.append (hb : Gap b) (ht : blank t) : Gap (b ++ t) := by
  refine ⟨?_, fun h => hb.ne_empty (String.append_eq_empty_iff.mp h).1⟩
  rw [blank, String.toList_append, List.all_append, Bool.and_eq_true]
  exact ⟨hb.white, ht⟩

theorem words_append_gap (hb : Gap b) (s t : String) :
    words (s ++ b ++ t) = words s ++ words t := by
  obtain ⟨x, blanks, hchars⟩ :=
    List.exists_cons_of_ne_nil (mt String.toList_eq_nil_iff.mp hb.ne_empty)
  have hall := List.all_eq_true.mp hb.white
  rw [hchars] at hall
  obtain ⟨hx, hblanks⟩ := List.forall_mem_cons.mp hall
  rw [words, String.toList_append, String.toList_append, hchars, List.append_assoc,
    List.cons_append, wordChars_append_cons hx, wordChars_blanks_append hblanks, List.map_append]
  rfl

theorem words_append_blank (hb : blank b) (s : String) : words (s ++ b) = words s := by
  by_cases h : b = ""
  · rw [h, String.append_empty]
  · have hgap := words_append_gap ⟨hb, h⟩ s ""
    rwa [String.append_empty, words_empty, List.append_nil] at hgap

end

/-- Texts that come from each other by changes of the case of A to Z and of the white space in front
of, behind and between the words. -/
inductive Respelled : String → String → Prop
  | letters {s t : String} : sameName s t → Respelled s t
  | front {b : String} (s : String) : blank b → Respelled s (b ++ s)
  | back {b : String} (s : String) : blank b → Respelled s (s ++ b)
  | between {b c : String} (s t : String) : Gap b → Gap c → Respelled (s ++ b ++ t) (s ++ c ++ t)
  | symm {s t : String} : Respelled s t → Respelled t s
  | trans {s t u : String} : Respelled s t → Respelled t u → Respelled s u

namespace Respelled

variable {s t w b : String}

theorem refl (s : String) : Respelled s s :=
  letters (sameName_refl s)

theorem words_upper_eq (h : Respelled s t) : (words s).map upper = (words t).map upper := by
  induction h with
  | letters h => rw [← words_upper, ← words_upper, sameName_iff_upper.mp h]
  | front s hb => rw [words_blank_append hb]
  | back s hb => rw [words_append_blank hb]
  | between s t hb hc => rw [words_append_gap hb, words_append_gap hc]
  | symm _ ih => exact ih.symm
  | trans _ _ ih ih' => exact ih.trans ih'

theorem behind (h : Respelled s t) (w : String) (hb : Gap b) :
    Respelled (w ++ b ++ s) (w ++ b ++ t) := by
  induction h with
  | letters h =>
    refine letters (sameName_iff_upper.mpr ?_)
    rw [upper_append, sameName_iff_upper.mp h, ← upper_append]
  | front s hc =>
    have hgap := between w s hb (hb.append hc)
    simpa only [String.append_assoc] using hgap
  | back s hc =>
    rw [← String.append_assoc]
    exact back _ hc
  | between s t hc hd =>
    have hgap := between (w ++ b ++ s) t hc hd
    simpa only [String.append_assoc] using hgap
  | symm _ ih => exact ih.symm
  | trans _ _ ih ih' => exact ih.trans ih'

theorem join_cons (hb : Gap b) (w : String) (ws : List String) :
    Respelled (w ++ b ++ " ".intercalate ws) (" ".intercalate (w :: ws)) := by
  cases ws with
  | nil =>
    rw [String.intercalate_singleton, String.intercalate_nil, String.append_empty]
    exact (back w hb.white).symm
  | cons v ws =>
    rw [String.intercalate_cons_cons]
    exact between w _ hb gap_space

theorem join_words (s : String) : Respelled s (" ".intercalate (words s)) := by
  suffices h : ∀ cs, Respelled (.ofList cs) (" ".intercalate (words (.ofList cs))) by
    simpa using h s.toList
  intro cs
  induction cs using run_induction with
  | run cs h =>
    by_cases hne : String.ofList cs = ""
    · rw [hne]
      exact refl ""
    · rw [words_run hne (by rwa [String.toList_ofList]), String.intercalate_singleton]
      exact refl _
  | cut cs x rest h hx ih =>
    have hgap : Gap (.singleton x) := ⟨by simpa [blank] using hx, by simp⟩
    have htext : String.ofList (cs ++ x :: rest) =
        .ofList cs ++ .singleton x ++ .ofList rest := by
      rw [← String.toList_inj]
      simp
    rw [htext, words_append_gap hgap]
    by_cases hne : String.ofList cs = ""
    · rw [hne, words_empty, List.nil_append, String.empty_append]
      exact (front _ hgap.white).symm.trans ih
    · rw [words_run hne (by rwa [String.toList_ofList]), List.singleton_append]
      exact (ih.behind _ hgap).trans (join_cons hgap _ _)

end Respelled

/-- Texts are spellings of each other exactly if they have the same words up to case. -/
theorem respelled_iff {s t : String} :
    Respelled s t ↔ (words s).map upper = (words t).map upper := by
  refine ⟨Respelled.words_upper_eq, fun h => ?_⟩
  have hjoined : sameName (" ".intercalate (words s)) (" ".intercalate (words t)) := by
    rw [sameName_iff_upper, upper_intercalate, upper_intercalate, h]
  exact (Respelled.join_words s).trans ((Respelled.letters hjoined).trans
    (Respelled.join_words t).symm)

instance (s t : String) : Decidable (Respelled s t) :=
  decidable_of_iff _ respelled_iff.symm

example : Respelled "int unsigned" "\tINT\n Unsigned " ∧ ¬ Respelled "unsigned" "un signed" := by
  decide +kernel

end BoundSql.Text
