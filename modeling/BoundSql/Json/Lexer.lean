import BoundSql.Json.Quoted
import BoundSql.Json.Token

/-! # Reading JSON tokens

Each step takes one token off the front of the text and leaves a shorter rest.
-/

namespace BoundSql.Json

/-- The blanks of JSON. -/
def isSpace (c : Char) : Bool :=
  c == ' ' || c == '\t' || c == '\n' || c == '\r'

/-- Where `word` stops that is to stand at `index`, and what follows it. -/
def afterWord (index : Nat) : (word cs : List Char) → Except Break (Nat × List Char)
  | [], cs => .ok (index, cs)
  | _ :: _, [] => .error (.of .unfinishedValue (.behind index))
  | w :: word, c :: cs =>
    if c == w then afterWord (index + 1) word cs
    else .error (.of .misspeltWord (.behind (index + 1)))

/-- A word of the language whose first letter stands in front of `index`. -/
def wordToken (index : Nat) (opening : Opening) (word : List Char) (t : Token) (cs : List Char) :
    Except Token (Token × Nat × List Char) :=
  match afterWord index word cs with
  | .ok (stop, rest) => .ok (t, stop, rest)
  | .error b => .error (.damaged opening b)

/-- A numeral whose digits start at `index`. -/
def numberToken (index : Nat) (negative : Bool) (cs : List Char) :
    Except Token (Token × Nat × List Char) :=
  match Numeral.scan negative index cs with
  | .ok (n, rest) => .ok (.number n.value, n.stop, rest)
  | .error b => .error (.damaged .other b)

/-- A string whose opening quote stands in front of `index`. -/
def stringToken (index : Nat) (cs : List Char) : Except Token (Token × Nat × List Char) :=
  match Quoted.scan index cs with
  | .ok (s, stop, rest) => .ok (.string s, stop, rest)
  | .error b => .error (.damaged .quote b)

/-- The token that starts with `c` at `index` and goes on in `cs`, where it stops, and what follows
it. A token that is none ends the text. -/
def token (index : Nat) (c : Char) (cs : List Char) : Except Token (Token × Nat × List Char) :=
  match c with
  | '[' => .ok (.openArray, index + 1, cs)
  | ']' => .ok (.closeArray, index + 1, cs)
  | '\x7b' => .ok (.openObject, index + 1, cs)
  | '\x7d' => .ok (.closeObject, index + 1, cs)
  | ',' => .ok (.comma, index + 1, cs)
  | ':' => .ok (.colon, index + 1, cs)
  | 'n' => wordToken (index + 1) .letterN ['u', 'l', 'l'] .null cs
  | 't' => wordToken (index + 1) .other ['r', 'u', 'e'] (.bool true) cs
  | 'f' => wordToken (index + 1) .other ['a', 'l', 's', 'e'] (.bool false) cs
  | '"' => stringToken (index + 1) cs
  | '-' => numberToken (index + 1) true cs
  | _ => if c.isDigit then numberToken index false (c :: cs) else .error .stray

theorem length_pieces {cs rest : List Char} {ps : List Quoted.Piece}
    (h : Quoted.pieces cs = (ps, .ok rest)) : rest.length < cs.length := by
  fun_induction Quoted.pieces cs generalizing ps with
  | case4 =>
    simp only [List.length_cons]
    grind
  | _ => grind

theorem length_fractionPart {i j : Nat} {cs rest digits : List Char}
    (h : Numeral.fractionPart i cs = .ok (digits, j, rest)) : rest.length ≤ cs.length := by
  have drop (l : List Char) : (l.dropWhile Char.isDigit).length ≤ l.length :=
    (List.dropWhile_sublist _).length_le
  unfold Numeral.fractionPart at h
  grind

theorem length_exponentSign (i : Nat) (cs : List Char) :
    (Numeral.exponentSign i cs).2.2.length ≤ cs.length := by
  unfold Numeral.exponentSign
  split <;> simp

theorem length_exponentPart {i j : Nat} {cs rest : List Char} {e : Option Exponent}
    (h : Numeral.exponentPart i cs = .ok (e, j, rest)) : rest.length ≤ cs.length := by
  have drop (l : List Char) : (l.dropWhile Char.isDigit).length ≤ l.length :=
    (List.dropWhile_sublist _).length_le
  have sign := length_exponentSign
  unfold Numeral.exponentPart at h
  grind

theorem length_numeral {b : Bool} {i : Nat} {cs rest : List Char} {n : Numeral}
    (h : Numeral.scan b i cs = .ok (n, rest)) : rest.length < cs.length := by
  have split : (cs.takeWhile Char.isDigit).length + (cs.dropWhile Char.isDigit).length =
      cs.length := by
    rw [← List.length_append, List.takeWhile_append_dropWhile]
  unfold Numeral.scan at h
  cases hd : cs.takeWhile Char.isDigit with
  | nil => grind
  | cons d more =>
    simp only [hd, List.length_cons] at h split
    split at h
    · simp at h
    · cases h₁ : Numeral.fractionPart (i + (more.length + 1)) (cs.dropWhile Char.isDigit) with
      | error b => simp [h₁, bind, Except.bind] at h
      | ok r₁ =>
        obtain ⟨fraction, j, rest₁⟩ := r₁
        have := length_fractionPart h₁
        cases h₂ : Numeral.exponentPart j rest₁ with
        | error b => simp [h₁, h₂, bind, Except.bind] at h
        | ok r₂ =>
          obtain ⟨exponent, k, rest₂⟩ := r₂
          have := length_exponentPart h₂
          simp only [h₁, h₂, bind, Except.bind, pure, Except.pure,
            Except.ok.injEq, Prod.mk.injEq] at h
          grind

theorem length_afterWord {i j : Nat} {word cs rest : List Char}
    (h : afterWord i word cs = .ok (j, rest)) : rest.length ≤ cs.length := by
  fun_induction afterWord i word cs <;> grind

theorem length_token {i j : Nat} {c : Char} {cs rest : List Char} {t : Token}
    (h : token i c cs = .ok (t, j, rest)) : rest.length < (c :: cs).length := by
  have word {i j : Nat} {w : List Char} (h : afterWord i w cs = .ok (j, rest)) :=
    length_afterWord h
  have string {ps : List Quoted.Piece} (h : Quoted.pieces cs = (ps, .ok rest)) := length_pieces h
  have number {b : Bool} {i : Nat} {n : Numeral} {l : List Char}
    (h : Numeral.scan b i l = .ok (n, rest)) := length_numeral h
  unfold token wordToken numberToken stringToken Quoted.scan at h
  split at h <;> grind

def tokenize (index : Nat) : List Char → List Lexeme
  | [] => []
  | c :: cs =>
    if isSpace c then tokenize (index + 1) cs
    else match _h : token index c cs with
      | .error t => [⟨t, index, index⟩]
      | .ok (t, stop, rest) => ⟨t, index, stop⟩ :: tokenize stop rest
termination_by cs => cs.length
decreasing_by
  · exact Nat.lt_succ_self _
  · exact length_token ‹_›

end BoundSql.Json
