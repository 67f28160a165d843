import BoundSql.Text.Blank
import BoundSql.Text.Letters
import BoundSql.Text.Literal
import Mathlib.Data.List.Basic
import Mathlib.Data.List.TakeWhile

/-! # Literals in a text

A reader of statement text that meets the literal of a text reads this text and stands outside
again, whatever the text is. So a statement put together from literals and from text without quotes
is read as it was put together: no literal ends early, and none swallows what follows it.
-/

namespace BoundSql.Text

def Unquoted (s : String) : Prop :=
  ∀ c ∈ s.toList, ¬ Literal.isQuote c

instance (s : String) : Decidable (Unquoted s) :=
  List.decidableBAll (fun c => ¬ Literal.isQuote c) s.toList

@[simp] theorem unquoted_append {s t : String} : Unquoted (s ++ t) ↔ Unquoted s ∧ Unquoted t := by
  simp [Unquoted, or_imp, forall_and]

@[simp] theorem unquoted_empty : Unquoted "" := by
  simp [Unquoted]

/-- A text without a quote in front, so that no literal before it can go on in it. -/
def Separated (s : String) : Prop :=
  ∀ c ∈ s.toList.head?, ¬ Literal.isQuote c

theorem Unquoted.separated {s : String} (h : Unquoted s) : Separated s :=
  fun c hc => h c (List.mem_of_mem_head? hc)

theorem Unquoted.separated_append {s : String} (h : Unquoted s) (hne : s ≠ "") (t : String) :
    Separated (s ++ t) := by
  intro c hc
  rw [String.toList_append, List.head?_append_of_ne_nil _ (by simpa using hne)] at hc
  exact h.separated c hc

theorem isDigit_of_mem_toString {n : Nat} {c : Char} (h : c ∈ (toString n).toList) :
    c.isDigit := by
  rw [Nat.toString_eq_repr, Nat.repr_eq_ofList_toDigits, String.toList_ofList] at h
  exact Nat.isDigit_of_mem_toDigits (by decide) (by decide) h

theorem not_isQuote_of_isDigit {c : Char} (h : c.isDigit) : ¬ Literal.isQuote c := by
  intro hq
  rw [Literal.isQuote, Bool.or_eq_true, beq_iff_eq, beq_iff_eq] at hq
  rcases hq with rfl | rfl <;> exact absurd h (by decide)

theorem not_isQuote_of_isBlank {c : Char} (h : isBlank c) : ¬ Literal.isQuote c := by
  intro hq
  rw [Literal.isQuote, Bool.or_eq_true, beq_iff_eq, beq_iff_eq] at hq
  rcases hq with rfl | rfl <;> exact absurd h (by decide)

theorem unquoted_toString (n : Nat) : Unquoted (toString n) :=
  fun _ hc => not_isQuote_of_isDigit (isDigit_of_mem_toString hc)

theorem mem_dropWhile {α : Type} {p : α → Bool} {l : List α} {a : α} (h : a ∈ l)
    (hp : ¬ p a) : a ∈ l.dropWhile p := by
  rw [← List.takeWhile_append_dropWhile (p := p) (l := l), List.mem_append] at h
  exact h.resolve_left fun h => hp (List.mem_takeWhile_imp h)

theorem mem_trimChars {cs : List Char} {c : Char} (h : c ∈ cs) (hb : ¬ isBlank c) :
    c ∈ trimChars cs := by
  rw [trimChars, List.mem_reverse]
  exact mem_dropWhile (List.mem_reverse.mpr (mem_dropWhile h hb)) hb

theorem unquoted_of_lower_trim {s : String} (h : Unquoted (lower (trim s))) : Unquoted s := by
  intro c hc hq
  have hb : ¬ isBlank c := fun hb => not_isQuote_of_isBlank hb hq
  have hlow : c.toLower = c := by
    rw [Literal.isQuote, Bool.or_eq_true, beq_iff_eq, beq_iff_eq] at hq
    rcases hq with rfl | rfl <;> decide
  refine h c ?_ hq
  rw [lower, trim, String.toList_ofList, String.toList_ofList, List.mem_map]
  exact ⟨c, mem_trimChars hc hb, hlow⟩

namespace Literal

theorem ne_backslash_of_isQuote {q : Char} (hq : isQuote q) : q ≠ '\\' := by
  rintro rfl
  exact absurd hq (by decide)

/-- Whether the next character at a place is outside every literal. The quote that opens a literal
counts as outside. -/
def Place.shows : Place → Char → Bool
  | outside, _ => true
  | closing q _, c => c != q
  | _, _ => false

/-- The characters of a text outside its literals, of which the opening quotes are left. -/
def around : Place → List Char → List Char
  | _, [] => []
  | place, c :: cs => (if place.shows c then [c] else []) ++ around (place.step c).1 cs

/-- The text outside the literals of a statement. -/
def frame (s : String) : String :=
  String.ofList (around .outside s.toList)

theorem scan_cons (place : Place) (c : Char) (cs : List Char) :
    scan place (c :: cs) = ((place.step c).2.toList ++ (scan (place.step c).1 cs).1,
      (scan (place.step c).1 cs).2) := rfl

theorem scan_unquoted {s : List Char} (h : ∀ c ∈ s, ¬ isQuote c) (cs : List Char) :
    scan .outside (s ++ cs) = scan .outside cs := by
  induction s with
  | nil => rfl
  | cons c s ih =>
    rw [List.forall_mem_cons] at h
    have hc : Place.step .outside c = (.outside, none) := by simp [Place.step, h.1]
    rw [List.cons_append, scan_cons, hc, ih h.2]
    rfl

theorem around_unquoted {s : List Char} (h : ∀ c ∈ s, ¬ isQuote c) (cs : List Char) :
    around .outside (s ++ cs) = s ++ around .outside cs := by
  induction s with
  | nil => rfl
  | cons c s ih =>
    rw [List.forall_mem_cons] at h
    have hc : Place.step .outside c = (.outside, none) := by simp [Place.step, h.1]
    rw [List.cons_append, around, hc, ih h.2]
    rfl

theorem read_escape {q : Char} (hq : q ≠ '\\') (s text cs : List Char) :
    scan (.inside q text) (escape q s ++ cs) = scan (.inside q (s.reverse ++ text)) cs ∧
      around (.inside q text) (escape q s ++ cs) = around (.inside q (s.reverse ++ text)) cs := by
  induction s generalizing text with
  | nil => exact ⟨rfl, rfl⟩
  | cons c s ih =>
    have hs : (c :: s).reverse ++ text = s.reverse ++ c :: text := by simp
    rw [hs, ← (ih (c :: text)).1, ← (ih (c :: text)).2, escape]
    split
    next hc =>
      subst hc
      exact ⟨rfl, rfl⟩
    next hc =>
      split
      next hcq =>
        subst hcq
        simp [scan_cons, around, Place.step, Place.shows, hc]
      next hcq => simp [scan_cons, around, Place.step, Place.shows, hc, hcq]

/-- A text that is read as some literals with a text around them, in front of anything but a
quote. -/
structure Reads (s : String) (texts : List String) (frame : String) : Prop where
  scan : ∀ c cs, ¬ isQuote c → scan .outside (s.toList ++ c :: cs) =
    (texts.map String.toList ++ (scan .outside (c :: cs)).1, (scan .outside (c :: cs)).2)
  around : ∀ c cs, ¬ isQuote c →
    around .outside (s.toList ++ c :: cs) = frame.toList ++ around .outside (c :: cs)

namespace Reads

variable {s t f g : String} {ss ts : List String}

theorem unquoted (h : Unquoted s) : Reads s [] s :=
  ⟨fun _ _ _ => scan_unquoted h _, fun _ _ _ => around_unquoted h _⟩

theorem literal {q : Char} (hq : isQuote q) (s : String) :
    Reads (quoteWith q s) [s] (String.singleton q) := by
  have hback := ne_backslash_of_isQuote hq
  have hs (cs : List Char) :
      (quoteWith q s).toList ++ cs = q :: (escape q s.toList ++ q :: cs) := by
    simp [quoteWith, write]
  have hopen : Place.step .outside q = (.inside q [], none) := by simp [Place.step, hq]
  have hend (text : List Char) : Place.step (.inside q text) q = (.closing q text, none) := by
    simp [Place.step, hback]
  constructor
  · intro c cs hc
    have hcq : c ≠ q := fun h => hc (h ▸ hq)
    rw [hs, scan_cons, hopen, (read_escape hback _ _ _).1, scan_cons, hend, scan_cons, scan_cons]
    simp [Place.step, hc, hcq]
  · intro c cs hc
    have hcq : c ≠ q := fun h => hc (h ▸ hq)
    rw [hs, Literal.around, hopen, (read_escape hback _ _ _).2, Literal.around, hend,
      Literal.around, Literal.around]
    simp [Place.step, Place.shows, hc, hcq]

theorem unquoted_append (hs : Unquoted s) (ht : Reads t ts g) : Reads (s ++ t) ts (s ++ g) := by
  constructor
  · intro c cs hc
    rw [String.toList_append, List.append_assoc, scan_unquoted hs, ht.scan c cs hc]
  · intro c cs hc
    rw [String.toList_append, List.append_assoc, around_unquoted hs, ht.around c cs hc,
      String.toList_append, List.append_assoc]

theorem append (hs : Reads s ss f) (ht : Reads t ts g) (hsep : Separated t) :
    Reads (s ++ t) (ss ++ ts) (f ++ g) := by
  constructor
  · intro c cs hc
    have h := ht.scan c cs hc
    rw [String.toList_append, List.append_assoc]
    cases hl : t.toList with
    | nil =>
      have hts : ts = [] := by simpa [hl] using congrArg Prod.fst h
      simp [hs.scan c cs hc, hts]
    | cons d ds =>
      have hd : ¬ isQuote d := hsep d (by rw [hl]; rfl)
      rw [hl] at h
      rw [List.cons_append, hs.scan d _ hd, ← List.cons_append, h]
      simp
  · intro c cs hc
    have h := ht.around c cs hc
    rw [String.toList_append, List.append_assoc]
    cases hl : t.toList with
    | nil =>
      have hg : g = "" := by simpa [hl] using h
      simp [hs.around c cs hc, hg]
    | cons d ds =>
      have hd : ¬ isQuote d := hsep d (by rw [hl]; rfl)
      rw [hl] at h
      rw [List.cons_append, hs.around d _ hd, ← List.cons_append, h]
      simp

theorem terminated (h : Reads s ss f) : all (s ++ ";") = some ss ∧ frame (s ++ ";") = f ++ ";" := by
  have hsemi : ¬ isQuote ';' := by decide
  have hs := h.scan ';' [] hsemi
  have ha := h.around ';' [] hsemi
  have hl : (s ++ ";").toList = s.toList ++ [';'] := by simp
  constructor
  · rw [all, hl, hs]
    simp [Literal.scan, Place.step, hsemi, Function.comp_def]
  · rw [frame, hl, ha, ← String.toList_inj]
    simp [Literal.around, Place.shows]

end Reads

/-- Two texts that are read as the given literals, with one text around them. -/
def Twins (s t : String) (ss ts : List String) : Prop :=
  ∃ f, Reads s ss f ∧ Reads t ts f

namespace Twins

variable {s t : String} {ss ts : List String}

theorem unquoted (h : Unquoted s) : Twins s s [] [] :=
  ⟨s, .unquoted h, .unquoted h⟩

theorem literals {q : Char} (hq : isQuote q) (s t : String) :
    Twins (quoteWith q s) (quoteWith q t) [s] [t] :=
  ⟨_, .literal hq s, .literal hq t⟩

theorem unquoted_append {a : String} (ha : Unquoted a) (h : Twins s t ss ts) :
    Twins (a ++ s) (a ++ t) ss ts := by
  obtain ⟨f, hs, ht⟩ := h
  exact ⟨a ++ f, hs.unquoted_append ha, ht.unquoted_append ha⟩

end Twins

/-- Twins that may stand right behind a literal. -/
structure Trailing (s t : String) (ss ts : List String) : Prop where
  twins : Twins s t ss ts
  left : Separated s
  right : Separated t

theorem Trailing.unquoted {s : String} (h : Unquoted s) : Trailing s s [] [] :=
  ⟨.unquoted h, h.separated, h.separated⟩

namespace Twins

variable {s t s' t' : String} {ss ts ss' ts' : List String}

theorem trailing {a : String} (ha : Unquoted a) (hne : a ≠ "") (h : Twins s t ss ts) :
    Trailing (a ++ s) (a ++ t) ss ts :=
  ⟨h.unquoted_append ha, ha.separated_append hne s, ha.separated_append hne t⟩

theorem append (h : Twins s t ss ts) (k : Trailing s' t' ss' ts') :
    Twins (s ++ s') (t ++ t') (ss ++ ss') (ts ++ ts') := by
  obtain ⟨f, hs, ht⟩ := h
  obtain ⟨⟨g, ks, kt⟩, hs', ht'⟩ := k
  exact ⟨f ++ g, hs.append ks hs', ht.append kt ht'⟩

theorem append_unquoted {a : String} (h : Twins s t ss ts) (ha : Unquoted a) :
    Twins (s ++ a) (t ++ a) ss ts := by
  simpa using h.append (.unquoted ha)

end Twins

inductive TwinsAll : (texts texts' ss ts : List String) → Prop
  | nil : TwinsAll [] [] [] []
  | cons {s t : String} {texts texts' ss ts ss' ts' : List String} (h : Twins s t ss ts)
    (k : TwinsAll texts texts' ss' ts') :
    TwinsAll (s :: texts) (t :: texts') (ss ++ ss') (ts ++ ts')

namespace TwinsAll

variable {texts texts' more more' ss ts ss' ts' : List String}

theorem isEmpty_eq (h : TwinsAll texts texts' ss ts) : texts.isEmpty = texts'.isEmpty := by
  cases h <;> rfl

theorem append (h : TwinsAll texts texts' ss ts) (k : TwinsAll more more' ss' ts') :
    TwinsAll (texts ++ more) (texts' ++ more') (ss ++ ss') (ts ++ ts') := by
  induction h with
  | nil => exact k
  | cons h _ ih =>
    rw [List.append_assoc, List.append_assoc]
    exact .cons h ih

theorem unquoted (h : ∀ s ∈ texts, Unquoted s) : TwinsAll texts texts [] [] := by
  induction texts with
  | nil => exact .nil
  | cons s texts ih =>
    rw [List.forall_mem_cons] at h
    exact .cons (.unquoted h.1) (ih h.2)

theorem literals {q : Char} (hq : isQuote q) (h : ss.length = ts.length) :
    TwinsAll (ss.map (quoteWith q)) (ts.map (quoteWith q)) ss ts := by
  induction ss generalizing ts with
  | nil =>
    obtain rfl := List.length_eq_zero_iff.mp h.symm
    exact .nil
  | cons s ss ih =>
    cases ts with
    | nil => cases h
    | cons t ts => exact .cons (.literals hq s t) (ih (Nat.succ.inj h))

theorem map {a : String} (ha : Unquoted a) (h : TwinsAll texts texts' ss ts) :
    TwinsAll (texts.map (a ++ ·)) (texts'.map (a ++ ·)) ss ts := by
  induction h with
  | nil => exact .nil
  | cons h _ ih => exact .cons (h.unquoted_append ha) ih

theorem intercalate {sep : String} (hsep : Unquoted sep) (hne : sep ≠ "")
    (h : TwinsAll texts texts' ss ts) :
    Twins (sep.intercalate texts) (sep.intercalate texts') ss ts := by
  induction h with
  | nil => simpa using Twins.unquoted unquoted_empty
  | cons h k ih =>
    cases k with
    | nil => simpa using h
    | cons =>
      rw [String.intercalate_cons_cons, String.intercalate_cons_cons, String.append_assoc,
        String.append_assoc]
      exact h.append (ih.trailing hsep hne)

end TwinsAll

end Literal

end BoundSql.Text
