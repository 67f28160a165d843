import BoundSql.Json.Flaw
import BoundSql.Json.Value
import BoundSql.Text.Shown

/-! # Faults of documents

A document cannot be read because it is malformed, or because its data is not what a reader
expects. Data faults name what was found and what was expected there.
-/

namespace BoundSql.Json

/-- What stands in the place of an expected value. -/
inductive Found where
  | null
  | boolean (b : Bool)
  | number (n : Number)
  | string (s : String)
  | sequence
  | map
  deriving DecidableEq, Repr

inductive Fault where
  | malformed (flaw : Flaw)
  | invalidType (found : Found) (expected : String)
  | invalidValue (found : Found) (expected : String)
  | invalidLength (length : Nat) (expected : String)
  | missingField (name : String)
  | duplicateField (name : String)
  | unknownVariant (name : String) (known : List String)
  /-- None of the alternatives of a type fits. -/
  | noAlternative (type : String)
  /-- A rule of the type itself refuses the value. -/
  | refused (reason : String)
  deriving DecidableEq, Repr

def Found.message : Found → String
  | .null => "null"
  | .boolean b => "boolean `" ++ toString b ++ "`"
  | .number (.integer n) => "integer `" ++ toString n ++ "`"
  | .number (.float x) => "floating point `" ++ x.document ++ "`"
  | .string s => "string " ++ Text.shown s
  | .sequence => "sequence"
  | .map => "map"

def ticked (name : String) : String :=
  "`" ++ name ++ "`"

def oneOf : List String → String
  | [] => "there are no variants"
  | [a] => "expected " ++ ticked a
  | [a, b] => "expected " ++ ticked a ++ " or " ++ ticked b
  | names => "expected one of " ++ ", ".intercalate (names.map ticked)

def Fault.message : Fault → String
  | .malformed flaw => flaw.message
  | .invalidType found expected =>
    "invalid type: " ++ found.message ++ ", expected " ++ expected
  | .invalidValue found expected =>
    "invalid value: " ++ found.message ++ ", expected " ++ expected
  | .invalidLength n expected =>
    "invalid length " ++ toString n ++ ", expected " ++ expected
  | .missingField name => "missing field " ++ ticked name
  | .duplicateField name => "duplicate field " ++ ticked name
  | .unknownVariant name known =>
    "unknown variant " ++ ticked name ++ ", " ++ oneOf known
  | .noAlternative type => "data did not match any variant of untagged enum " ++ type
  | .refused reason => reason

/-- Whether the text is no document at all. -/
def Fault.isMalformed : Fault → Bool
  | .malformed _ => true
  | _ => false

/-- A fault and where it is reported. A fault that a rule finds after its value has been read has no
place until the container around the value gives it one. -/
structure Refusal where
  fault : Fault
  place : Option Place := none
  deriving DecidableEq, Repr

namespace Refusal

def ofDefect (defect : Defect) : Refusal :=
  ⟨.malformed defect.flaw, some defect.place⟩

/-- The location of a refusal in the text. -/
def location? (text : List UInt8) (r : Refusal) : Option Location :=
  r.place.map (·.location text)

end Refusal

end BoundSql.Json
