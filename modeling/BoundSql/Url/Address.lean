import BoundSql.Text.Blank
import BoundSql.Text.Digits

/-! # Addresses of hosts

An address has eight groups between brackets, or it is one number of 32 bits. One run of zero
groups may be left out, and the last two groups may be written as four decimal numbers; the address
is shown with its longest run of zeros left out. A number is written in up to four parts, the last
of which fills what the others leave, and shown byte by byte.
-/

namespace BoundSql.Url

namespace Address

def group? (cs : List Char) : Option Nat := do
  guard (1 ≤ cs.length ∧ cs.length ≤ 4)
  let digits ← cs.mapM Text.hexValue
  pure (digits.foldl (fun n d => 16 * n + d) 0)

/-- A number below 256 without a zero in front. -/
def byte? (cs : List Char) : Option Nat := do
  guard (!cs.isEmpty && cs.all Char.isDigit && (cs.length == 1 || cs.head? != some '0'))
  let n := Text.decimalValue cs
  guard (n < 256)
  pure n

/-- The two groups that four numbers stand for. -/
def dotted? (cs : List Char) : Option (List Nat) := do
  match ← (Text.splitChars '.' cs).mapM byte? with
  | [a, b, c, d] => pure [256 * a + b, 256 * c + d]
  | _ => none

/-- Groups with colons between them; four numbers may stand in the place of the last two. -/
def groups? : List (List Char) → Option (List Nat)
  | [] => some []
  | [last] => if last.contains '.' then dotted? last else (group? last).map ([·])
  | piece :: rest => do
    let n ← group? piece
    let ns ← groups? rest
    pure (n :: ns)

/-- The text in front of the first two colons, and what follows them. -/
def splitGap : List Char → List Char × Option (List Char)
  | [] => ([], none)
  | ':' :: ':' :: rest => ([], some rest)
  | c :: rest =>
    let (before, after) := splitGap rest
    (c :: before, after)

/-- The groups of a part that may be empty. -/
def part? (cs : List Char) : Option (List Nat) :=
  if cs.isEmpty then some [] else groups? (Text.splitChars ':' cs)

/-- The eight groups of an address. Two colons leave out at least one group. -/
def parse? (cs : List Char) : Option (List Nat) := do
  match splitGap cs with
  | (_, none) =>
    let groups ← groups? (Text.splitChars ':' cs)
    guard (groups.length = 8)
    pure groups
  | (before, some after) =>
    guard (!before.contains '.')
    let front ← part? before
    let back ← part? after
    guard (front.length + back.length ≤ 7)
    pure (front ++ List.replicate (8 - front.length - back.length) 0 ++ back)

/-- How many zeros stand in front. -/
def zeroRun (groups : List Nat) : Nat :=
  (groups.takeWhile (· == 0)).length

/-- The start and the length of the longest run of zeros, the first of several. -/
def longestRun : (position : Nat) → List Nat → Nat × Nat
  | _, [] => (0, 0)
  | position, g :: rest =>
    let here := zeroRun (g :: rest)
    let (start, length) := longestRun (position + 1) rest
    if 0 < here ∧ length ≤ here then (position, here) else (start, length)

def groupTexts (groups : List Nat) : String :=
  ":".intercalate (groups.map fun n => String.ofList (Nat.toDigits 16 n))

def text (groups : List Nat) : String :=
  let (start, length) := longestRun 0 groups
  "[" ++ (if length < 2 then groupTexts groups
    else groupTexts (groups.take start) ++ "::" ++ groupTexts (groups.drop (start + length))) ++ "]"

end Address

namespace Number

/-- A part of a number: base sixteen behind `0x`, base eight behind `0`, else base ten. -/
def part? (cs : List Char) : Option Nat :=
  match cs with
  | [] => none
  | ['0'] => some 0
  | '0' :: 'x' :: digits => value? 16 digits
  | '0' :: 'X' :: digits => value? 16 digits
  | '0' :: digits => value? 8 digits
  | digits => value? 10 digits
where
  value? (base : Nat) (digits : List Char) : Option Nat := do
    let values ← digits.mapM Text.hexValue
    guard (values.all (· < base))
    pure (values.foldl (fun n d => base * n + d) 0)

/-- The parts between the dots; a dot at the end is of no account. -/
def parts (cs : List Char) : List (List Char) :=
  let parts := Text.splitChars '.' cs
  if parts.getLast? = some [] then parts.dropLast else parts

/-- Whether a name can only be meant as a number: its last part is one, or has digits only. -/
def isMeant (cs : List Char) : Bool :=
  match (parts cs).getLast? with
  | none => false
  | some last => (!last.isEmpty && last.all Char.isDigit) || (part? last).isSome

def ofParts? : (room : Nat) → List Nat → Option Nat
  | _, [] => none
  | room, [n] => if n < 256 ^ room then some n else none
  | 0, _ :: _ :: _ => none
  | room + 1, n :: rest => do
    guard (n < 256)
    let low ← ofParts? room rest
    pure (n * 256 ^ room + low)

def parse? (cs : List Char) : Option Nat := do
  let numbers ← (parts cs).mapM part?
  guard (numbers.length ≤ 4)
  ofParts? 4 numbers

def text (n : Nat) : String :=
  ".".intercalate ([24, 16, 8, 0].map fun shift => toString (n / 2 ^ shift % 256))

end Number

end BoundSql.Url
