import BoundSql.Text.Digits

/-! # Punycode

A text with any characters is written with letters, digits and hyphens: first its characters of
ASCII, then for each other one how far it is from the one before, counted over all characters at all
positions. These numbers have a variable base, which adapts to their size.
-/

namespace BoundSql.Url.Punycode

def base : Nat := 36

def firstCode : Nat := 128

def digit (value : Nat) : Char :=
  if value < 26 then Char.ofNat ('a'.toNat + value) else Char.ofNat ('0'.toNat + value - 26)

def value? (c : Char) : Option Nat :=
  if 'a' ≤ c ∧ c ≤ 'z' then some (c.toNat - 'a'.toNat)
  else if 'A' ≤ c ∧ c ≤ 'Z' then some (c.toNat - 'A'.toNat)
  else if '0' ≤ c ∧ c ≤ '9' then some (c.toNat - '0'.toNat + 26)
  else none

/-- The least value of a digit at `position` behind which the number goes on. -/
def threshold (bias position : Nat) : Nat :=
  let k := base * (position + 1)
  if k ≤ bias + 1 then 1 else if bias + 26 ≤ k then 26 else k - bias

theorem threshold_pos (bias position : Nat) : 0 < threshold bias position := by
  unfold threshold
  grind

theorem threshold_lt (bias position : Nat) : threshold bias position < base := by
  unfold threshold base
  grind

/-- Divides `delta` until it is small, and counts the divisions. -/
def reduce (count delta : Nat) : Nat × Nat :=
  if delta ≤ 455 then (count, delta) else reduce (count + 1) (delta / 35)
termination_by delta

/-- The bias after a number; `size` counts the characters so far. -/
def adapt (delta size : Nat) (isFirst : Bool) : Nat :=
  let delta := if isFirst then delta / 700 else delta / 2
  let (count, delta) := reduce 0 (delta + delta / size)
  base * count + 36 * delta / (delta + 38)

/-- The digits of a number from `position` on. -/
def number (bias position n : Nat) : List Char :=
  let t := threshold bias position
  if n < t then [digit n]
  else digit (t + (n - t) % (base - t)) :: number bias (position + 1) ((n - t) / (base - t))
termination_by n
decreasing_by
  have := threshold_pos bias position
  have := threshold_lt bias position
  exact Nat.lt_of_le_of_lt (Nat.div_le_self _ _) (by omega)

structure Writer where
  delta : Nat := 0
  bias : Nat := 72
  size : Nat
  isFirst : Bool := true
  digits : List Char := []

/-- Passes one character of the text while the characters `code` are written. -/
def Writer.pass (code : Nat) (w : Writer) (c : Char) : Writer :=
  if c.toNat < code then { w with delta := w.delta + 1 }
  else if c.toNat = code then
    { delta := 0
      bias := adapt w.delta (w.size + 1) w.isFirst
      size := w.size + 1
      isFirst := false
      digits := w.digits ++ number w.bias 0 w.delta }
  else w

/-- Writes the characters with the given codes, which rise from `least` on. -/
def Writer.run (text : List Char) : (least : Nat) → List Nat → Writer → Writer
  | _, [], w => w
  | least, code :: codes, w =>
    let w := { w with delta := w.delta + (code - least) * (w.size + 1) }
    let w := text.foldl (Writer.pass code) w
    run text (code + 1) codes { w with delta := w.delta + 1 }

def encode (text : List Char) : List Char :=
  let plain := text.filter (·.toNat < firstCode)
  let codes := ((text.map Char.toNat).filter (firstCode ≤ ·)).mergeSort.eraseReps
  let w := Writer.run text firstCode codes { size := plain.length }
  plain ++ (if plain.isEmpty then [] else ['-']) ++ w.digits

/-- A text as far as it has been read. -/
structure Reader where
  text : List Char
  code : Nat := firstCode
  bias : Nat := 72
  /-- The place of the next character, and the place that its number started at. -/
  place : Nat := 0
  start : Nat := 0
  weight : Nat := 1
  position : Nat := 0

def maxWeight : Nat := 2 ^ 32 - 1

/-- Puts in the character whose number is complete. -/
def Reader.insert? (r : Reader) : Option Reader :=
  let size := r.text.length + 1
  let code := r.code + r.place / size
  let place := r.place % size
  if code.isValidChar then
    some {
      text := r.text.insertIdx place (Char.ofNat code)
      code
      bias := adapt (r.place - r.start) size (r.start == 0)
      place := place + 1
      start := place + 1 }
  else none

def Reader.read? (r : Reader) (c : Char) : Option Reader := do
  let value ← value? c
  let t := threshold r.bias r.position
  let r := { r with place := r.place + value * r.weight }
  if value < t then r.insert?
  else if maxWeight < r.weight * (base - t) then none
  else some { r with weight := r.weight * (base - t), position := r.position + 1 }

/-- The characters in front of the last hyphen, and the digits behind it. -/
def parts (cs : List Char) : List Char × List Char :=
  let digits := (cs.reverse.takeWhile (· ≠ '-')).reverse
  let plain := cs.take (cs.length - digits.length - 1)
  if plain.isEmpty then ([], cs) else (plain, digits)

def decode? (cs : List Char) : Option (List Char) := do
  let (plain, digits) := parts cs
  let r ← digits.foldlM Reader.read? { text := plain }
  if r.position = 0 then some r.text else none

end BoundSql.Url.Punycode
