/-! # UTF-8

Bytes are decoded strictly, or leniently with one replacement character for each longest run of
bytes that starts a character but does not finish it.
-/

namespace BoundSql.Text.Utf8

/-- Why a byte sequence is no text: `valid` bytes are good and the next `length` bytes are not a
character, or the input ends inside a character when `length` is missing. -/
structure Flaw where
  valid : Nat
  length : Option Nat
  deriving DecidableEq, Repr

/-- What the front of a byte sequence holds. -/
inductive Front where
  | char (c : Char) (size : Nat)
  | invalid (size : Nat)
  | incomplete (size : Nat)

def isTail (b : UInt8) : Bool :=
  0x80 ≤ b && b ≤ 0xbf

/-- The size of the character that `b` starts and the range of its second byte. -/
def lead (b : UInt8) : Option (Nat × UInt8 × UInt8) :=
  if 0xc2 ≤ b && b ≤ 0xdf then some (2, 0x80, 0xbf)
  else if b == 0xe0 then some (3, 0xa0, 0xbf)
  else if b == 0xed then some (3, 0x80, 0x9f)
  else if 0xe1 ≤ b && b ≤ 0xef then some (3, 0x80, 0xbf)
  else if b == 0xf0 then some (4, 0x90, 0xbf)
  else if 0xf1 ≤ b && b ≤ 0xf3 then some (4, 0x80, 0xbf)
  else if b == 0xf4 then some (4, 0x80, 0x8f)
  else none

def payload (b : UInt8) : Nat :=
  b.toNat % 64

/-- The first character of `b :: rest`, or the run of bytes that fails to be one. -/
def front (b : UInt8) (rest : List UInt8) : Front :=
  if b < 0x80 then .char (Char.ofNat b.toNat) 1
  else match lead b with
    | none => .invalid 1
    | some (size, low, high) =>
      match rest with
      | [] => .incomplete 1
      | b₁ :: rest₁ =>
        if b₁ < low || high < b₁ then .invalid 1
        else if size = 2 then .char (Char.ofNat (b.toNat % 32 * 64 + payload b₁)) 2
        else match rest₁ with
          | [] => .incomplete 2
          | b₂ :: rest₂ =>
            if !isTail b₂ then .invalid 2
            else if size = 3 then
              .char (Char.ofNat ((b.toNat % 16 * 64 + payload b₁) * 64 + payload b₂)) 3
            else match rest₂ with
              | [] => .incomplete 3
              | b₃ :: _ =>
                if !isTail b₃ then .invalid 3
                else .char (Char.ofNat
                  (((b.toNat % 8 * 64 + payload b₁) * 64 + payload b₂) * 64 + payload b₃)) 4

/-- Decodes leniently; `skip` bytes belong to what has been decoded already. -/
def lenientChars : (skip : Nat) → List UInt8 → List Char
  | _, [] => []
  | skip + 1, _ :: rest => lenientChars skip rest
  | 0, b :: rest =>
    match front b rest with
    | .char c size => c :: lenientChars (size - 1) rest
    | .invalid size => '\ufffd' :: lenientChars (size - 1) rest
    | .incomplete size => '\ufffd' :: lenientChars (size - 1) rest

/-- The text of a byte sequence, with a replacement character for each flaw. -/
def lenient (bytes : List UInt8) : String :=
  String.ofList (lenientChars 0 bytes)

/-- Decodes strictly from position `at`; `skip` bytes belong to what has been decoded already. -/
def strictChars : (position skip : Nat) → List UInt8 → Except Flaw (List Char)
  | _, _, [] => .ok []
  | position, skip + 1, _ :: rest => strictChars (position + 1) skip rest
  | position, 0, b :: rest =>
    match front b rest with
    | .char c size => (c :: ·) <$> strictChars (position + 1) (size - 1) rest
    | .invalid size => .error ⟨position, some size⟩
    | .incomplete _ => .error ⟨position, none⟩

/-- The text of a byte sequence, or its first flaw. -/
def strict (bytes : List UInt8) : Except Flaw String :=
  String.ofList <$> strictChars 0 0 bytes

def encode (s : String) : List UInt8 :=
  s.toByteArray.toList

def Flaw.message (flaw : Flaw) : String :=
  match flaw.length with
  | some n => s!"invalid utf-8 sequence of {n} bytes from index {flaw.valid}"
  | none => s!"incomplete utf-8 byte sequence from index {flaw.valid}"

end BoundSql.Text.Utf8
