/-! # Letter case

Names are compared without regard to the case of the letters A to Z; all other characters count
as written.
-/

namespace BoundSql.Text

/-- A text with its capitals A to Z made small. -/
def lower (s : String) : String :=
  String.ofList (s.toList.map Char.toLower)

def upper (s : String) : String :=
  String.ofList (s.toList.map Char.toUpper)

/-- Whether two texts agree up to the case of A to Z. -/
def sameName (s t : String) : Bool :=
  lower s == lower t

theorem sameName_iff {s t : String} : sameName s t = true ↔ lower s = lower t :=
  beq_iff_eq

theorem sameName_refl (s : String) : sameName s s = true :=
  sameName_iff.mpr rfl

theorem sameName_comm (s t : String) : sameName s t = sameName t s :=
  BEq.comm

theorem sameName_trans {s t u : String} (h : sameName s t = true) (h' : sameName t u = true) :
    sameName s u = true :=
  sameName_iff.mpr ((sameName_iff.mp h).trans (sameName_iff.mp h'))

/-- Whether `needle` stands somewhere in `cs`. -/
def occursIn (needle : List Char) : List Char → Bool
  | [] => needle.isEmpty
  | c :: cs => needle.isPrefixOf (c :: cs) || occursIn needle cs

def mentions (s needle : String) : Bool :=
  occursIn needle.toList s.toList

end BoundSql.Text
