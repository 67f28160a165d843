import BoundSql.Text.Blank
import BoundSql.Text.Digits

/-! # Ranges of characters

A class of characters is listed as closed ranges of code points. A long list is written as text, in
base sixteen with blanks between the ranges.
-/

namespace BoundSql.Text

def inRanges (ranges : List (Nat × Nat)) (c : Char) : Bool :=
  ranges.any fun (low, high) => low ≤ c.toNat && c.toNat ≤ high

def hexNumber (cs : List Char) : Nat :=
  cs.foldl (fun n c => 16 * n + (hexValue c).getD 0) 0

/-- The range from one number to another, or of one number alone. -/
def rangeOf (cs : List Char) : Nat × Nat :=
  let low := hexNumber (cs.takeWhile (· ≠ '-'))
  match cs.dropWhile (· ≠ '-') with
  | [] => (low, low)
  | _ :: high => (low, hexNumber high)

/-- The parts of a text between its spaces and line ends. -/
def entries (text : String) : List (List Char) :=
  (splitChars ' ' (text.toList.map fun c => if c = '\n' then ' ' else c)).filter (!·.isEmpty)

def rangesOf (text : String) : List (Nat × Nat) :=
  (entries text).map rangeOf

end BoundSql.Text
