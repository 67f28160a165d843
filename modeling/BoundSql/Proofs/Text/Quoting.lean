import BoundSql.Proofs.Text.Literal

/-! # Literals read back

A literal that is written for a text is read as this text, and the reader stops right behind it. The
one thing that makes it read on is the quote itself, right behind the literal, since the two quotes
then look like a doubled one.
-/

namespace BoundSql.Text

namespace Literal

variable {q : Char}

theorem readRest_backslash (c : Char) (cs : List Char) :
    readRest q ('\\' :: c :: cs) = (readRest q cs).map fun (body, rest) => (c :: body, rest) :=
  rfl

theorem readRest_doubled (hq : q ≠ '\\') (cs : List Char) :
    readRest q (q :: q :: cs) = (readRest q cs).map fun (body, rest) => (q :: body, rest) := by
  rw [readRest.eq_def]
  simp [hq]

theorem readRest_of_ne {c : Char} (hc : c ≠ '\\') (hcq : c ≠ q) (cs : List Char) :
    readRest q (c :: cs) = (readRest q cs).map fun (body, rest) => (c :: body, rest) := by
  rw [readRest.eq_def]
  simp [hc, hcq]

theorem readRest_closed (hq : q ≠ '\\') {rest : List Char} (h : q ∉ rest.head?) :
    readRest q (q :: rest) = some ([], rest) := by
  cases rest with
  | nil => simp [readRest, hq]
  | cons d ds =>
    have hd : d ≠ q := fun hd => h (hd ▸ rfl)
    simp [readRest, hq, hd]

theorem exists_of_map_cons {found : Option (List Char × List Char)} {c : Char}
    {text rest : List Char}
    (h : (found.map fun (body, rest) => (c :: body, rest)) = some (text, rest)) :
    ∃ body, found = some (body, rest) := by
  obtain ⟨⟨body, rest'⟩, hfound, hpair⟩ := Option.map_eq_some_iff.mp h
  obtain ⟨-, rfl⟩ := Prod.mk.inj hpair
  exact ⟨body, hfound⟩

theorem length_of_readRest {cs text rest : List Char} (h : readRest q cs = some (text, rest)) :
    rest.length < cs.length := by
  fun_induction readRest q cs generalizing text with
  | case1 | case2 => cases h
  | case3 c cs ih | case5 cs _ _ ih | case7 c cs _ _ _ ih =>
    obtain ⟨body, hread⟩ := exists_of_map_cons h
    have hlt := ih hread
    simp only [List.length_cons]
    omega
  | case4 | case6 =>
    cases h
    simp

theorem readRest_escape (hq : q ≠ '\\') (s cs : List Char) :
    readRest q (escape q s ++ cs) = (readRest q cs).map fun (body, rest) => (s ++ body, rest) := by
  induction s with
  | nil => simp [escape]
  | cons c s ih =>
    rw [escape]
    split
    next hc =>
      subst hc
      rw [List.cons_append, List.cons_append, readRest_backslash, ih, Option.map_map]
      rfl
    next hc =>
      split
      next hcq =>
        subst hcq
        rw [List.cons_append, List.cons_append, readRest_doubled hq, ih, Option.map_map]
        rfl
      next hcq =>
        rw [List.cons_append, readRest_of_ne hc hcq, ih, Option.map_map]
        rfl

/-- A written literal is read as its text, and with just what follows it left over, unless the quote
follows. -/
theorem read_write_iff (hq : isQuote q) (s rest : List Char) :
    read (write q s ++ rest) = some (s, rest) ↔ q ∉ rest.head? := by
  have hback := ne_backslash_of_isQuote hq
  have hread : read (write q s ++ rest) =
      (readRest q (q :: rest)).map fun (body, left) => (s ++ body, left) := by
    rw [write, List.append_assoc, List.cons_append, read, if_pos hq, List.singleton_append,
      readRest_escape hback]
  rw [hread]
  constructor
  · intro h hmem
    -- The quote would be taken for the second one of a doubled quote, and less than `rest` is left.
    obtain ⟨ds, rfl⟩ := List.head?_eq_some_iff.mp hmem
    obtain ⟨⟨body, left⟩, hfound, hpair⟩ := Option.map_eq_some_iff.mp h
    obtain ⟨-, rfl⟩ := Prod.mk.inj hpair
    rw [readRest_doubled hback] at hfound
    obtain ⟨body', hmore⟩ := exists_of_map_cons hfound
    have hlt := length_of_readRest hmore
    simp only [List.length_cons] at hlt
    omega
  · intro h
    rw [readRest_closed hback h]
    simp

end Literal

/-- Reading undoes quoting, whatever follows: a quoted text is read as the text, with just what
follows it left over, exactly if the quote does not follow. So two texts that are quoted alike are
equal, and where two texts start with a literal and then no quote, the literals spell one text and
the same follows them. -/
theorem read_quoteWith {q : Char} (hq : Literal.isQuote q) :
    (∀ s t : String, Literal.read (quoteWith q s ++ t).toList = some (s.toList, t.toList) ↔
      q ∉ t.toList.head?) ∧
    Function.Injective (quoteWith q) ∧
    ∀ s s' t t' : String, q ∉ t.toList.head? → q ∉ t'.toList.head? →
      quoteWith q s ++ t = quoteWith q s' ++ t' → s = s' ∧ t = t' := by
  have hread (s t : String) :
      Literal.read (quoteWith q s ++ t).toList = some (s.toList, t.toList) ↔
        q ∉ t.toList.head? := by
    rw [quoteWith, String.toList_append, String.toList_ofList, Literal.read_write_iff hq]
  have hinj (s s' t t' : String) (ht : q ∉ t.toList.head?) (ht' : q ∉ t'.toList.head?)
      (h : quoteWith q s ++ t = quoteWith q s' ++ t') : s = s' ∧ t = t' := by
    have hpair := (hread s t).mpr ht
    rw [h, (hread s' t').mpr ht', Option.some.injEq, Prod.mk.injEq] at hpair
    exact ⟨String.toList_inj.mp hpair.1.symm, String.toList_inj.mp hpair.2.symm⟩
  have hnone : q ∉ "".toList.head? := by simp
  refine ⟨hread, fun s s' h => ?_, hinj⟩
  exact (hinj s s' "" "" hnone hnone (congrArg (· ++ "") h)).1

/-- A text that ends in a quote and a backslash, in front of a text that opens a literal of its
own. -/
theorem read_quoteWith_of_path :
    let s := "C:\\'\\"
    let t := " OR name = \"x'"
    Literal.isQuote '\'' ∧ '\'' ∉ t.toList.head? ∧
      quoteWith '\'' s ++ t = "'C:\\\\''\\\\' OR name = \"x'" ∧
      Literal.read (quoteWith '\'' s ++ t).toList = some (s.toList, t.toList) := by
  intro s t
  have hquote : Literal.isQuote '\'' := rfl
  have ht : '\'' ∉ t.toList.head? := by decide
  exact ⟨hquote, ht, by decide +kernel, ((read_quoteWith hquote).1 s t).mpr ht⟩

end BoundSql.Text
