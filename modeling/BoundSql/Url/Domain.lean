import BoundSql.Text.Composed
import BoundSql.Url.Domain.Direction
import BoundSql.Url.Domain.Joining
import BoundSql.Url.Domain.Mapping
import BoundSql.Url.Punycode

/-! # Domains

A domain is a row of labels with dots between them. It is shown in ASCII with small letters; a label
with other characters is written in Punycode behind a mark.
-/

namespace BoundSql.Url.Domain

def isDenied (c : Char) : Bool :=
  c ≤ ' ' || c == '\x7f' ||
    ['%', '#', '/', ':', '<', '>', '?', '@', '[', '\\', ']', '^', '|'].contains c

def isAscii (c : Char) : Bool :=
  c.toNat < 128

def encodingMark : List Char := ['x', 'n', '-', '-']

def maxLabelSize : Nat := 1000

def maxCodeSize : Nat := 2000

/-- A label, and how it is written. -/
structure Label where
  text : List Char
  written : List Char

namespace Label

/-- Whether the characters of a label stand in places where they may stand. -/
def isWellFormed (text : List Char) : Bool :=
  !text.head?.any Text.isMark && joinersFit [] text

/-- The label that a code stands for. Only a label that needs a code has one. -/
def ofCode? (code : List Char) : Option Label := do
  guard (code.length ≤ maxCodeSize)
  let text ← Punycode.decode? code
  guard (!text.all isAscii && text.all isPlain && Text.composed text == text && isWellFormed text)
  pure ⟨text, encodingMark ++ code⟩

def ofText? (text : List Char) : Option Label :=
  if encodingMark.isPrefixOf text then
    if text.all isAscii then ofCode? (text.drop encodingMark.length) else none
  else if text.all isAscii then some ⟨text, text⟩
  else if text.length ≤ maxLabelSize && isWellFormed text then
    some ⟨text, encodingMark ++ Punycode.encode text⟩
  else none

end Label

def labels? (cs : List Char) : Option (List Label) := do
  let text := Text.composed (← cs.mapM mapped?).flatten
  guard (!text.any isDenied)
  let labels ← (Text.splitChars '.' text).mapM Label.ofText?
  guard ((labels.any fun l => l.text.any isLeftward) → labels.all fun l => runsOneWay l.text)
  pure labels

def ascii? (cs : List Char) : Option (List Char) := do
  pure (['.'].intercalate ((← labels? cs).map Label.written))

end BoundSql.Url.Domain
