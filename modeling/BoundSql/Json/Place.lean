import BoundSql.Text.Utf8

/-! # Places in a text

A fault is reported behind a number of bytes of the text. Readers name that place by what stands
there, and it is worked out from the text when the fault is reported, as a line and a column. Lines
count from one; a column is the number of bytes that the line has in front of the place.
-/

namespace BoundSql.Json

inductive Place where
  /-- Behind the first `n` bytes. -/
  | behind (n : Nat)
  /-- Behind the byte at `n`, which has been looked at but not taken. -/
  | past (n : Nat)
  /-- Behind the blanks at `n`. -/
  | pastBlanks (n : Nat)
  /-- Behind the blanks at `n`, and behind the end of an object if it follows them. -/
  | objectEnd (n : Nat)
  /-- Behind the blanks at `n`, and behind the end of an array or a comma with its blanks if one of
  them follows. -/
  | arrayEnd (n : Nat)
  deriving DecidableEq, Repr

def isBlankByte (b : UInt8) : Bool :=
  b == 0x20 || b == 0x09 || b == 0x0a || b == 0x0d

def blankCount (bytes : List UInt8) : Nat :=
  (bytes.takeWhile isBlankByte).length

def Place.offset (text : List UInt8) : Place → Nat
  | behind n => n
  | past n => min text.length (n + 1)
  | pastBlanks n => n + blankCount (text.drop n)
  | objectEnd n =>
    let n := n + blankCount (text.drop n)
    if text[n]? = some 0x7d then n + 1 else n
  | arrayEnd n =>
    let n := n + blankCount (text.drop n)
    if text[n]? = some 0x5d then n + 1
    else if text[n]? = some 0x2c then n + 1 + blankCount (text.drop (n + 1))
    else n

structure Location where
  line : Nat
  column : Nat
  deriving DecidableEq, Repr

def Location.behind (bytes : List UInt8) : Location where
  line := 1 + bytes.count 0x0a
  column := (bytes.reverse.takeWhile (· != 0x0a)).length

def Place.location (text : List UInt8) (place : Place) : Location :=
  .behind (text.take (place.offset text))

def Location.message (location : Location) : String :=
  "at line " ++ toString location.line ++ " column " ++ toString location.column

end BoundSql.Json
