import BoundSql.Json.Numeral

/-! # Strings between quotes

The text between quotes is a sequence of pieces: characters, escaped characters and code units given
by number. A string that is only skipped has to be cut into pieces; to be read, its code units of
surrogate pairs have to meet as well.
-/

namespace BoundSql.Json

-- Sums start from the core library's zero, also next to libraries that have their own.
attribute [local instance (high)] Zero.ofOfNat0

open Text (hexValue)

def hexQuad (a b c d : Char) : Option Nat := do
  let a ← hexValue a
  let b ← hexValue b
  let c ← hexValue c
  let d ← hexValue d
  pure (((a * 16 + b) * 16 + c) * 16 + d)

/-- The character that a letter behind a backslash stands for. -/
def unescape : Char → Option Char
  | '"' => some '"'
  | '\\' => some '\\'
  | '/' => some '/'
  | 'b' => some '\x08'
  | 'f' => some '\x0c'
  | 'n' => some '\n'
  | 'r' => some '\r'
  | 't' => some '\t'
  | _ => none

def byteCount (cs : List Char) : Nat :=
  (cs.map Char.utf8Size).sum

namespace Quoted

inductive Piece where
  | char (c : Char)
  | escaped (c : Char)
  | unit (n : Nat)
  deriving DecidableEq, Repr

def Piece.size : Piece → Nat
  | char c => c.utf8Size
  | escaped _ => 2
  | unit _ => 6

/-- What ends the pieces of a string in the place of a quote. -/
inductive Stop where
  /-- The end of the text, with so many bytes of an escape in front of it. -/
  | cut (bytes : Nat)
  | control
  | badLetter
  | badUnit
  deriving DecidableEq, Repr

/-- The pieces of a string, and what follows its closing quote. -/
def pieces : List Char → List Piece × Except Stop (List Char)
  | [] => ([], .error (.cut 0))
  | '"' :: rest => ([], .ok rest)
  | ['\\'] => ([], .error (.cut 1))
  | '\\' :: 'u' :: a :: b :: c :: d :: rest =>
    match hexQuad a b c d with
    | some n =>
      let (more, rest) := pieces rest
      (.unit n :: more, rest)
    | none => ([], .error .badUnit)
  | '\\' :: 'u' :: rest =>
    let size := byteCount rest
    ([], .error (if size < 4 then .cut (2 + size) else .badUnit))
  | '\\' :: c :: rest =>
    match unescape c with
    | some c =>
      let (more, rest) := pieces rest
      (.escaped c :: more, rest)
    | none => ([], .error .badLetter)
  | c :: rest =>
    if c.toNat < 32 then ([], .error .control)
    else
      let (more, rest) := pieces rest
      (.char c :: more, rest)

def size (ps : List Piece) : Nat :=
  (ps.map Piece.size).sum

/-- Why a string breaks off whose last piece stops at `index`. -/
def Stop.break (index : Nat) : Stop → Break
  | cut bytes => .of .unfinishedString (.behind (index + bytes))
  | control => ⟨⟨.controlCharacter, .behind (index + 1)⟩, ⟨.controlCharacter, .behind index⟩⟩
  | badLetter => .of .badEscape (.behind (index + 2))
  | badUnit => .of .badEscape (.behind (index + 6))

def isHighSurrogate (n : Nat) : Bool :=
  0xd800 ≤ n && n < 0xdc00

def isLowSurrogate (n : Nat) : Bool :=
  0xdc00 ≤ n && n < 0xe000

/-- The defect of a first half of a pair that stops at `index`, when no code unit follows. -/
def halfPair (index : Nat) : List Piece → Option Stop → Defect
  | .escaped _ :: _, _ => ⟨.halfPair, .behind (index + 2)⟩
  | [], some (.cut bytes) => ⟨.unfinishedString, .behind (index + bytes)⟩
  | [], some .badLetter => ⟨.halfPair, .behind (index + 2)⟩
  | [], some .badUnit => ⟨.badEscape, .behind (index + 6)⟩
  | _, _ => ⟨.halfPair, .behind (index + 1)⟩

/-- The characters of the pieces that start at `index`, or the first defect; `stop` is what ends
them in the place of a quote. -/
def assemble (stop : Option Stop) : (index : Nat) → List Piece → Except Defect (List Char)
  | index, [] =>
    match stop with
    | none => .ok []
    | some stop => .error (stop.break index).read
  | index, .char c :: rest => (c :: ·) <$> assemble stop (index + c.utf8Size) rest
  | index, .escaped c :: rest => (c :: ·) <$> assemble stop (index + 2) rest
  | index, .unit n :: .unit m :: rest =>
    if isHighSurrogate n then
      if isLowSurrogate m then
        (Char.ofNat (0x10000 + (n - 0xd800) * 0x400 + (m - 0xdc00)) :: ·) <$>
          assemble stop (index + 12) rest
      else .error ⟨.loneSurrogate, .behind (index + 12)⟩
    else if isLowSurrogate n then .error ⟨.loneSurrogate, .behind (index + 6)⟩
    else (Char.ofNat n :: ·) <$> assemble stop (index + 6) (.unit m :: rest)
  | index, .unit n :: rest =>
    if isHighSurrogate n then .error (halfPair (index + 6) rest stop)
    else if isLowSurrogate n then .error ⟨.loneSurrogate, .behind (index + 6)⟩
    else (Char.ofNat n :: ·) <$> assemble stop (index + 6) rest

/-- A string whose first piece starts at `index`: what is read, where it stops and what follows. -/
def scan (index : Nat) (cs : List Char) :
    Except Break (Except Defect String × Nat × List Char) :=
  let (ps, rest) := pieces cs
  let stop := index + size ps
  match rest with
  | .ok rest => .ok (String.ofList <$> assemble none index ps, stop + 1, rest)
  | .error reason =>
    let b := reason.break stop
    match assemble (some reason) index ps with
    | .error defect => .error { b with read := defect }
    | .ok _ => .error b

end Quoted

end BoundSql.Json
