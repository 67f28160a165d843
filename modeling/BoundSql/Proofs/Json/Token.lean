import BoundSql.Json.Lexer
import Mathlib.Data.List.Chain
import Mathlib.Data.List.TakeWhile
import Mathlib.Tactic.IntervalCases

/-! # Tokens read back

The lexer takes the tokens of a text in turn, whatever characters the strings hold, as long as no
digits run together. The numbers are integers of 64 bits: the tokens of doubles are not treated.
-/

namespace BoundSql.Json

namespace Numeral

/-- What may follow a number that ends in a digit. -/
def Ends (rest : List Char) : Prop :=
  ∀ c ∈ rest.head?, ¬ c.isDigit ∧ c ≠ '.' ∧ c ≠ 'e' ∧ c ≠ 'E'

theorem toNat_digitChar {d : Nat} (h : d < 10) : d.digitChar.toNat - '0'.toNat = d := by
  interval_cases d <;> rfl

theorem grow?_digitChar {m d : Nat} (hd : d < 10) (h : 10 * m + d < 2 ^ 64) :
    grow? m d.digitChar = some (10 * m + d) := by
  rw [grow?, toNat_digitChar hd]
  exact if_pos h

theorem takeWhole_nil (m : Nat) : takeWhole m [] = (m, 0) := rfl

theorem takeWhole_cons (m : Nat) (c : Char) (cs : List Char) : takeWhole m (c :: cs) =
    (match grow? m c with
      | some n => takeWhole n cs
      | none => (m, cs.length + 1)) := by
  with_unfolding_all rfl

theorem takeFraction_nil (m : Nat) : takeFraction m [] = (m, 0) := rfl

theorem takeWhole_append {m k j : Nat} {cs : List Char} {c : Char}
    (h : takeWhole m cs = (k, 0)) (hc : grow? k c = some j) :
    takeWhole m (cs ++ [c]) = (j, 0) := by
  induction cs generalizing m with
  | nil =>
    rw [takeWhole_nil, Prod.mk.injEq] at h
    obtain ⟨rfl, -⟩ := h
    simp only [List.nil_append, takeWhole_cons, takeWhole_nil, hc]
  | cons d cs ih =>
    rw [takeWhole_cons] at h
    rw [List.cons_append, takeWhole_cons]
    cases hg : grow? m d with
    | none => simp [hg] at h
    | some j =>
      simp only [hg] at h
      exact ih h

theorem takeWhole_toDigits {n : Nat} (h : n < 2 ^ 64) :
    takeWhole 0 (Nat.toDigits 10 n) = (n, 0) := by
  induction n using Nat.strong_induction_on with
  | _ n ih =>
    have hmod : n % 10 < 10 := Nat.mod_lt _ (by decide)
    have hn : 10 * (n / 10) + n % 10 = n := by omega
    have hgrow := grow?_digitChar hmod (hn.symm ▸ h)
    rw [hn] at hgrow
    by_cases hsmall : n < 10
    · have hdiv : n / 10 = 0 := by omega
      rw [hdiv, Nat.mod_eq_of_lt hsmall] at hgrow
      rw [Nat.toDigits_of_lt_base hsmall]
      exact takeWhole_append (takeWhole_nil 0) hgrow
    · rw [Nat.toDigits_of_base_le (by decide) (by omega)]
      exact takeWhole_append (ih (n / 10) (by omega) (by omega)) hgrow

theorem digitChar_ne_zero {d : Nat} (h : d < 10) (hd : d ≠ 0) : d.digitChar ≠ '0' := by
  interval_cases d <;> simp_all

theorem head_toDigits_ne_zero {n : Nat} (h : 0 < n) {c : Char} {cs : List Char}
    (hc : Nat.toDigits 10 n = c :: cs) : c ≠ '0' := by
  induction n using Nat.strong_induction_on generalizing c cs with
  | _ n ih =>
    by_cases hn : n < 10
    · rw [Nat.toDigits_of_lt_base hn] at hc
      rw [← (List.cons.inj hc).1]
      exact digitChar_ne_zero hn (by omega)
    · rw [Nat.toDigits_of_base_le (by decide) (by omega)] at hc
      cases hd : Nat.toDigits 10 (n / 10) with
      | nil => exact absurd hd Nat.toDigits_ne_nil
      | cons d ds =>
        rw [hd, List.cons_append] at hc
        rw [← (List.cons.inj hc).1]
        exact ih (n / 10) (by omega) (by omega) hd

theorem Ends.takeWhile_eq {rest : List Char} (h : Ends rest) :
    rest.takeWhile Char.isDigit = [] := by
  cases rest with
  | nil => rfl
  | cons c cs => exact List.takeWhile_cons_of_neg (h c rfl).1

theorem Ends.dropWhile_eq {rest : List Char} (h : Ends rest) :
    rest.dropWhile Char.isDigit = rest := by
  cases rest with
  | nil => rfl
  | cons c cs => exact List.dropWhile_cons_of_neg (h c rfl).1

theorem Ends.fractionPart_eq {rest : List Char} (h : Ends rest) (index : Nat) :
    fractionPart index rest = .ok ([], index, rest) := by
  unfold fractionPart
  split
  next rest => exact absurd rfl (h '.' rfl).2.1
  next => rfl

theorem Ends.exponentPart_eq {rest : List Char} (h : Ends rest) (index : Nat) :
    exponentPart index rest = .ok (none, index, rest) := by
  cases rest with
  | nil => rfl
  | cons c cs =>
    obtain ⟨-, -, he, hE⟩ := h c rfl
    simp [exponentPart, he, hE]

theorem scan_toDigits (negative : Bool) (index n : Nat) {rest : List Char} (h : Ends rest) :
    ∃ stop, scan negative index (Nat.toDigits 10 n ++ rest) =
      .ok ({ negative, whole := Nat.toDigits 10 n, stop }, rest) := by
  have hdigits (c : Char) (hc : c ∈ Nat.toDigits 10 n) : c.isDigit :=
    Nat.isDigit_of_mem_toDigits (by decide) (by decide) hc
  have htake : (Nat.toDigits 10 n ++ rest).takeWhile Char.isDigit = Nat.toDigits 10 n := by
    rw [List.takeWhile_append_of_pos hdigits, h.takeWhile_eq, List.append_nil]
  have hdrop : (Nat.toDigits 10 n ++ rest).dropWhile Char.isDigit = rest := by
    rw [List.dropWhile_append_of_pos hdigits, h.dropWhile_eq]
  refine ⟨index + (Nat.toDigits 10 n).length, ?_⟩
  rw [scan, htake, hdrop]
  cases hd : Nat.toDigits 10 n with
  | nil => exact absurd hd Nat.toDigits_ne_nil
  | cons d more =>
    have hlead : (d == '0' && !more.isEmpty) = false := by
      cases n with
      | zero =>
        obtain ⟨-, rfl⟩ := List.cons.inj hd
        simp
      | succ n => simp [head_toDigits_ne_zero (Nat.succ_pos n) hd]
    simp only [hlead, h.fractionPart_eq, h.exponentPart_eq, bind, Except.bind]
    rfl

theorem value_toDigits {negative : Bool} {n stop : Nat} {j : Int}
    (hn : n < 2 ^ 64) (hj : integer negative n = some (.integer j)) :
    value { negative, whole := Nat.toDigits 10 n, stop } = .ok (.integer j) := by
  simp only [value, takeWhole_toDigits hn, takeFraction_nil, hj, List.isEmpty_nil, and_self,
    if_true, Option.elim_some]

theorem integer_negative {n : Nat} (hpositive : 0 < n) (hfits : n ≤ 2 ^ 63) :
    integer true n = some (.integer (-n)) := by
  rw [integer, Bool.not_true, if_neg Bool.false_ne_true, if_pos ⟨hpositive, hfits⟩]

end Numeral

/-- An integer that 64 bits hold, with a sign or without. -/
def Number.Fits : Number → Prop
  | .integer n => -2 ^ 63 ≤ n ∧ n < 2 ^ 64
  | .float _ => False

theorem token_of_isDigit {c : Char} (hc : c.isDigit) (index : Nat) (cs : List Char) :
    token index c cs = numberToken index false (c :: cs) := by
  have hne (d : Char) (hd : d.isDigit = false) : c ≠ d := by
    rintro rfl
    simp [hc] at hd
  unfold token
  split
  all_goals first | exact absurd rfl (hne _ (by decide)) | exact if_pos hc

theorem not_isSpace_of_isDigit {c : Char} (h : c.isDigit) : ¬ isSpace c := by
  intro hs
  simp only [isSpace, Bool.or_eq_true, beq_iff_eq] at hs
  rcases hs with ((rfl | rfl) | rfl) | rfl <;> exact absurd h (by decide)

/-- The digits of a number are read back behind the sign that has been taken. -/
theorem numberToken_toDigits {negative : Bool} {n : Nat} {j : Int} (hn : n < 2 ^ 64)
    (hj : Numeral.integer negative n = some (.integer j)) (index : Nat) {rest : List Char}
    (hrest : Numeral.Ends rest) :
    ∃ stop, numberToken index negative (Nat.toDigits 10 n ++ rest) =
      .ok (.number (.ok (.integer j)), stop, rest) := by
  obtain ⟨stop, hscan⟩ := Numeral.scan_toDigits negative index n hrest
  refine ⟨stop, ?_⟩
  simp only [numberToken, hscan, Numeral.value_toDigits hn hj]

theorem token_number {n : Number} (h : n.Fits) (index : Nat) {rest : List Char}
    (hrest : Numeral.Ends rest) : ∃ c cs stop, n.text = c :: cs ∧ ¬ isSpace c ∧
      token index c (cs ++ rest) = .ok (.number (.ok n), stop, rest) := by
  cases n with
  | float x => exact h.elim
  | integer j =>
    obtain ⟨hlow, hhigh⟩ := h
    cases j with
    | ofNat n =>
      have hn : n < 2 ^ 64 := by
        rw [Int.ofNat_eq_natCast] at hhigh
        omega
      have hj : Numeral.integer false n = some (.integer n) := rfl
      obtain ⟨stop, htoken⟩ := numberToken_toDigits hn hj index hrest
      have htext : (Number.integer (Int.ofNat n)).text = Nat.toDigits 10 n := by
        simp [Number.text, Int.repr, Nat.repr_eq_ofList_toDigits]
      cases hd : Nat.toDigits 10 n with
      | nil => exact absurd hd Nat.toDigits_ne_nil
      | cons c cs =>
        have hc : c.isDigit :=
          Nat.isDigit_of_mem_toDigits (by decide) (by decide) (hd ▸ List.mem_cons_self)
        rw [hd, List.cons_append] at htoken
        refine ⟨c, cs, stop, htext.trans hd, not_isSpace_of_isDigit hc, ?_⟩
        rw [token_of_isDigit hc, htoken]
        rfl
    | negSucc n =>
      have hn : n + 1 ≤ 2 ^ 63 := by omega
      have hj : Numeral.integer true (n + 1) = some (.integer (Int.negSucc n)) :=
        Numeral.integer_negative (Nat.succ_pos n) hn
      have hlarge : n + 1 < 2 ^ 64 := by omega
      obtain ⟨stop, htoken⟩ := numberToken_toDigits hlarge hj (index + 1) hrest
      refine ⟨'-', Nat.toDigits 10 (n + 1), stop, ?_, by decide, htoken⟩
      simp [Number.text, Nat.repr_eq_ofList_toDigits, toString, Int.repr]

namespace Quoted

inductive Piece.Spells : Piece → Char → Prop
  | char (c : Char) : Spells (.char c) c
  | escaped (c : Char) : Spells (.escaped c) c
  | unit (c : Char) (h : c.toNat < 32) : Spells (.unit c.toNat) c

theorem assemble_unit {n : Nat} (h : n < 32) (index : Nat) (ps : List Piece) :
    assemble none index (.unit n :: ps) = (Char.ofNat n :: ·) <$> assemble none (index + 6) ps := by
  have hhigh : isHighSurrogate n = false := by simp [isHighSurrogate]; omega
  have hlow : isLowSurrogate n = false := by simp [isLowSurrogate]; omega
  cases ps with
  | nil => simp [assemble, hhigh, hlow]
  | cons p ps => cases p <;> simp [assemble, hhigh, hlow]

theorem assemble_of_spells {ps : List Piece} {cs : List Char}
    (h : List.Forall₂ Piece.Spells ps cs) (index : Nat) : assemble none index ps = .ok cs := by
  induction h generalizing index with
  | nil => rfl
  | cons hp _ ih =>
    cases hp with
    | char c => simp [assemble, ih]
    | escaped c => simp [assemble, ih]
    | unit c hc => simp [assemble_unit hc, ih, Char.ofNat_toNat]

theorem hexQuad_control : ∀ n < 32,
    hexQuad '0' '0' (Text.hexDigit (n / 16)) (Text.hexDigit n) = some n := by
  decide

theorem pieces_char {c : Char} (hquote : c ≠ '"') (hback : c ≠ '\\') (hc : ¬ c.toNat < 32)
    (rest : List Char) : pieces (c :: rest) = (.char c :: (pieces rest).1, (pieces rest).2) := by
  rw [pieces.eq_def]
  split <;> simp_all

theorem pieces_unit {c : Char} (hc : c.toNat < 32) (rest : List Char) :
    pieces ('\\' :: 'u' :: '0' :: '0' :: Text.hexDigit (c.toNat / 16) :: Text.hexDigit c.toNat ::
      rest) = (.unit c.toNat :: (pieces rest).1, (pieces rest).2) := by
  rw [pieces, hexQuad_control _ hc]

theorem pieces_escaped {l c : Char} (hl : unescape l = some c) (rest : List Char) :
    pieces ('\\' :: l :: rest) = (.escaped c :: (pieces rest).1, (pieces rest).2) := by
  have hu : l ≠ 'u' := by
    rintro rfl
    simp [unescape] at hl
  rw [pieces, hl] <;> simp [hu]

theorem pieces_escapeChar (c : Char) (rest : List Char) :
    ∃ p : Piece, p.Spells c ∧
      pieces (escapeChar c ++ rest) = (p :: (pieces rest).1, (pieces rest).2) := by
  have escaped {l : Char} (hl : unescape l = some c) : ∃ p : Piece, p.Spells c ∧
      pieces (['\\', l] ++ rest) = (p :: (pieces rest).1, (pieces rest).2) :=
    ⟨_, .escaped c, pieces_escaped hl rest⟩
  unfold escapeChar
  split_ifs with hquote hback hb hf hn hr ht hcontrol
  rotate_left 7
  · exact ⟨_, .unit c hcontrol, pieces_unit hcontrol rest⟩
  · exact ⟨_, .char c, pieces_char hquote hback hcontrol rest⟩
  all_goals
    subst_vars
    exact escaped rfl

/-- The characters of a string come back from their escaped forms. -/
theorem pieces_flatMap (cs rest : List Char) :
    ∃ ps, List.Forall₂ Piece.Spells ps cs ∧
      pieces (cs.flatMap escapeChar ++ '"' :: rest) = (ps, .ok rest) := by
  induction cs with
  | nil => exact ⟨[], .nil, by simp [pieces]⟩
  | cons c cs ih =>
    obtain ⟨ps, hps, hcs⟩ := ih
    obtain ⟨p, hp, hc⟩ := pieces_escapeChar c (cs.flatMap escapeChar ++ '"' :: rest)
    refine ⟨p :: ps, .cons hp hps, ?_⟩
    rw [List.flatMap_cons, List.append_assoc, hc, hcs]

end Quoted

theorem token_string (s : String) (index : Nat) (rest : List Char) :
    ∃ stop, token index '"' (s.toList.flatMap escapeChar ++ '"' :: rest) =
      .ok (.string (.ok s), stop, rest) := by
  obtain ⟨ps, hps, hpieces⟩ := Quoted.pieces_flatMap s.toList rest
  refine ⟨index + 1 + Quoted.size ps + 1, ?_⟩
  simp only [token, stringToken, Quoted.scan, hpieces, Quoted.assemble_of_spells hps]
  exact congrArg (fun s => Except.ok (Token.string (.ok s), _, rest)) String.ofList_toList

namespace Token

def isNumber : Token → Bool
  | number _ => true
  | _ => false

def Written : Token → Prop
  | number (.ok n) => n.Fits
  | number (.error _) | string (.error _) | damaged _ _ | stray => False
  | _ => True

/-- A token that may stand behind another: no digits run together. -/
def Follows (t next : Token) : Prop :=
  t.isNumber → next = comma ∨ next = closeArray ∨ next = closeObject

end Token

theorem token_text {t : Token} (h : t.Written) (index : Nat) {rest : List Char}
    (hrest : t.isNumber → Numeral.Ends rest) : ∃ c cs stop, t.text = c :: cs ∧ ¬ isSpace c ∧
      token index c (cs ++ rest) = .ok (t, stop, rest) := by
  cases t with
  | openArray | closeArray | openObject | closeObject | comma | colon =>
    exact ⟨_, _, _, rfl, by decide, rfl⟩
  | null => exact ⟨_, _, _, rfl, by decide, rfl⟩
  | bool b => cases b <;> exact ⟨_, _, _, rfl, by decide, rfl⟩
  | number n =>
    cases n with
    | error defect => exact h.elim
    | ok n => exact token_number h index (hrest rfl)
  | string s =>
    cases s with
    | error defect => exact h.elim
    | ok s =>
      obtain ⟨stop, htoken⟩ := token_string s index rest
      refine ⟨'"', s.toList.flatMap escapeChar ++ ['"'], stop, rfl, by decide, ?_⟩
      rw [List.append_assoc]
      exact htoken
  | damaged | stray => exact h.elim

theorem tokenize_of_token {index stop : Nat} {c : Char} {cs rest : List Char} {t : Token}
    (hspace : ¬ isSpace c) (h : token index c cs = .ok (t, stop, rest)) :
    tokenize index (c :: cs) = ⟨t, index, stop⟩ :: tokenize stop rest := by
  rw [tokenize, if_neg hspace]
  split
  next heq =>
    rw [h] at heq
    cases heq
  next heq =>
    rw [h] at heq
    obtain ⟨rfl, rfl, rfl⟩ := by simpa using heq
    rfl

/-- The lexer gives back the tokens that a text is made of. -/
theorem tokenize_flatMap {ts : List Token} (hwritten : ∀ t ∈ ts, t.Written)
    (hchain : ts.IsChain Token.Follows) (index : Nat) :
    (tokenize index (ts.flatMap Token.text)).map Lexeme.token = ts := by
  induction ts generalizing index with
  | nil => simp [tokenize]
  | cons t ts ih =>
    rw [List.forall_mem_cons] at hwritten
    have hrest (hn : t.isNumber) : Numeral.Ends (ts.flatMap Token.text) := by
      cases ts with
      | nil =>
        intro c hc
        cases hc
      | cons next ts =>
        rw [List.isChain_cons_cons] at hchain
        intro c hc
        rcases hchain.1 hn with rfl | rfl | rfl <;>
        · obtain rfl := Option.some.inj hc
          decide
    obtain ⟨c, cs, stop, htext, hspace, htoken⟩ := token_text hwritten.1 index hrest
    rw [List.flatMap_cons, htext, List.cons_append, tokenize_of_token hspace htoken, List.map_cons,
      ih hwritten.2 hchain.tail]

end BoundSql.Json
