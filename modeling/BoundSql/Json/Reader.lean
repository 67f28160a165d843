import BoundSql.Json.Document

/-! # Readers

A reader turns a draft into a value of some type. It goes through the draft in the order of the
text, so the first fault wins, be it a flaw of the text or of its data. A record is read from an
object by the names of its fields, or from an array in the order of its fields.
-/

namespace BoundSql.Json

/-- A result of reading. -/
abbrev Read (α : Type) := Except Refusal α

namespace Read

variable {α : Type}

/-- Refuses the text for a defect. -/
def malformed (defect : Defect) : Read α :=
  .error (.ofDefect defect)

def refuse (place : Place) (fault : Fault) : Read α :=
  .error ⟨fault, some place⟩

/-- Refuses data that has been read; the container around it tells where. -/
def refuseValue (fault : Fault) : Read α :=
  .error ⟨fault, none⟩

/-- A part of a reader that meets defects only. -/
def ofExcept : Except Defect α → Read α
  | .ok a => .ok a
  | .error defect => malformed defect

/-- The place of a refusal that has none yet. -/
def within (place : Place) : Read α → Read α
  | .error ⟨fault, none⟩ => refuse place fault
  | r => r

end Read

namespace Draft

def mismatch {α : Type} (expected : String) (d : Draft) : Read α := do
  let (found, place) ← Read.ofExcept d.found
  Read.refuse place (.invalidType found expected)

def text : Draft → Read String
  | .string s _ => .ok s
  | d => d.mismatch "a string"

def boolean : Draft → Read Bool
  | .bool b _ => .ok b
  | d => d.mismatch "a boolean"

def unsigned (bits : Nat) : Draft → Read Nat
  | .number (.integer n) span =>
    if 0 ≤ n ∧ n < 2 ^ bits then .ok n.toNat
    else Read.refuse (.behind span.stop)
      (.invalidValue (.number (.integer n)) ("u" ++ toString bits))
  | d => d.mismatch ("u" ++ toString bits)

/-- A value, or null for none. What starts like null is not tried as a value. -/
def optional {α : Type} (read : Draft → Read α) : Draft → Read (Option α)
  | .null _ => .ok none
  | .damaged _ .letterN defect _ => Read.malformed defect
  | d => some <$> read d

def list {α : Type} (read : Draft → Read α) : Draft → Read (List α)
  | .array items _ ending => do
    let as ← items.mapM fun d => (read d).within (.arrayEnd d.stop)
    Read.ofExcept ending.check
    pure as
  | d => d.mismatch "a sequence"

/-- The members of an object in order, repeated names included. -/
def members {α : Type} (expected : String) (read : Draft → Read α) :
    Draft → Read (List (String × α))
  | .object members _ ending => do
    let entries ← members.mapM fun (name, d) => do
      let text ← Read.ofExcept name.text
      let value ← (read d).within (.objectEnd d.stop)
      pure (text, value)
    Read.ofExcept ending.check
    pure entries
  | d => d.mismatch expected

/-- The only member of an object. A second one is refused at its name. -/
def singleMember {α : Type} (expected : String) (read : Draft → Read α) :
    Draft → Read (String × α)
  | .object [] start ending => do
    Read.ofExcept ending.check
    Read.refuse (.behind (ending.stop?.getD start)) (.invalidLength 0 expected)
  | .object ((name, d) :: rest) _ ending => do
    let text ← Read.ofExcept name.text
    let value ← (read d).within (.objectEnd d.stop)
    match rest with
    | [] => do
      Read.ofExcept ending.check
      pure (text, value)
    | (second, _) :: _ => do
      let _ ← Read.ofExcept second.text
      Read.refuse (.objectEnd second.stop) (.invalidLength 2 expected)
  | d => d.mismatch expected

/-- A value of a type with alternatives, which is looked at only when all of it has been read. -/
def alternative {α : Type} (type : String) (pick : Json → Option α) (d : Draft) : Read α := do
  let j ← Read.ofExcept d.whole
  match pick j with
  | none => Read.refuseValue (.noAlternative type)
  | some a => pure a

/-- The entry of a table of named cases. -/
def lookUp {α : Type} (cases : List (String × α)) (place : Place) (name : String) : Read α :=
  match cases.lookup name with
  | some a => .ok a
  | none => Read.refuse place (.unknownVariant name (cases.map (·.1)))

/-- The wording of the name of a case that is expected. -/
def caseTitle : String := "variant identifier"

/-- What stands in an object without members in the place of the name of a case. -/
def missingCase {α : Type} : Ending → Read α
  | .closed stop => Read.malformed ⟨.missingValue, .behind stop⟩
  | .broken _ (some stray) => do
    let (found, place) ← Read.ofExcept stray
    Read.refuse place (.invalidType found caseTitle)
  | .broken b none => Read.malformed ⟨.unfinishedValue, b.read.place⟩

/-- Refuses to go on behind the value of a case at `stop`, unless the object ends there. -/
def endOfCase (stop : Nat) (rest : List (Name × Draft)) : Ending → Read Unit
  | .closed _ =>
    if rest.isEmpty then .ok () else Read.malformed ⟨.missingValue, .pastBlanks stop⟩
  | .broken b _ =>
    let ends := rest.isEmpty && b.read.flaw == .unfinishedObject
    Read.malformed ⟨if ends then .unfinishedObject else .missingValue, .pastBlanks stop⟩

/-- A named case: its name, or an object with the name alone and null. -/
def namedCase {α : Type} (cases : List (String × α)) : Draft → Read α
  | .string name span => lookUp cases (.behind span.stop) name
  | .object [] _ ending => missingCase ending
  | .object ((name, d) :: rest) _ ending => do
    let a ← lookUp cases (.behind name.stop) (← Read.ofExcept name.text)
    match d with
    | .null span => do
      endOfCase span.stop rest ending
      pure a
    | d => d.mismatch "unit"
  | .absent _ defect => Read.malformed defect
  | .damaged _ .quote defect _ => Read.malformed defect
  | .damaged _ .brace defect _ => Read.malformed defect
  | d => Read.malformed ⟨.missingValue, .past d.start⟩

end Draft

/-- A field of a record: how its value enters the record, and whether it may be left out of an
object, or off the end of an array. -/
structure Field (α : Type) where
  name : String
  read : Draft → α → Read α
  mayMiss : Bool
  mayEnd : Bool

namespace Field

variable {α β : Type}

def required (name : String) (read : Draft → Read β) (set : β → α → α) : Field α :=
  ⟨name, fun d a => (set · a) <$> read d, false, false⟩

/-- A field that keeps its default when it is left out. -/
def defaulted (name : String) (read : Draft → Read β) (set : β → α → α) : Field α :=
  ⟨name, fun d a => (set · a) <$> read d, true, true⟩

/-- A field that is none when an object leaves it out; an array has to give it. -/
def nullable (name : String) (read : Draft → Read β) (set : Option β → α → α) : Field α :=
  ⟨name, fun d a => (set · a) <$> d.optional read, true, false⟩

end Field

/-- How a record is read: its title in messages, the record before any field, its fields. -/
structure Shape (α : Type) where
  title : String
  start : α
  fields : List (Field α)

namespace Shape

variable {α : Type}

/-- Reads the members of an object into the record; `seen` holds the names met so far. -/
def readMembers (shape : Shape α) : (seen : List String) → List (Name × Draft) → α →
    Read (List String × α)
  | seen, [], a => .ok (seen, a)
  | seen, (name, d) :: rest, a => do
    let text ← Read.ofExcept name.text
    match shape.fields.find? (·.name == text) with
    | none =>
      match d.skipped with
      | none => readMembers shape seen rest a
      | some defect => Read.malformed defect
    | some field =>
      if seen.contains text then Read.refuse (.objectEnd name.stop) (.duplicateField text)
      else do
        let a ← (field.read d a).within (.objectEnd d.stop)
        readMembers shape (text :: seen) rest a

def arity (shape : Shape α) : String :=
  match shape.fields.length with
  | 1 => shape.title ++ " with 1 element"
  | n => shape.title ++ " with " ++ toString n ++ " elements"

/-- Reads the items of an array into the fields in order, and gives the items left over. -/
def readItems (shape : Shape α) (start : Nat) (ending : Ending) : (position : Nat) →
    List (Field α) → List Draft → α → Read (α × List Draft)
  | _, [], rest, a => .ok (a, rest)
  | position, field :: fields, [], a => do
    Read.ofExcept ending.check
    if field.mayEnd then readItems shape start ending (position + 1) fields [] a
    else Read.refuse (.behind (ending.stop?.getD start)) (.invalidLength position shape.arity)
  | position, field :: fields, d :: rest, a => do
    let a ← (field.read d a).within (.arrayEnd d.stop)
    readItems shape start ending (position + 1) fields rest a

def requireFields (shape : Shape α) (seen : List String) (place : Place) : Read Unit :=
  match shape.fields.find? fun field => !field.mayMiss && !seen.contains field.name with
  | none => .ok ()
  | some field => Read.refuse place (.missingField field.name)

/-- Reads a record; `finish` is done behind the last field of an array, with the items left over. -/
def readWith (shape : Shape α) (finish : List Draft → Ending → Read Unit) : Draft → Read α
  | .object members start ending => do
    let (seen, a) ← shape.readMembers [] members shape.start
    Read.ofExcept ending.check
    shape.requireFields seen (.behind (ending.stop?.getD start))
    pure a
  | .array items start ending => do
    let (a, rest) ← shape.readItems start ending 0 shape.fields items shape.start
    finish rest ending
    pure a
  | d => d.mismatch shape.title

def endOfItems (rest : List Draft) (ending : Ending) : Read Unit :=
  match rest, ending with
  | d :: _, _ => Read.malformed ⟨.trailingText, .past d.start⟩
  | [], .closed _ => .ok ()
  | [], .broken b _ =>
    match b.read.flaw with
    | .trailingComma => Read.malformed b.read
    | .unfinishedArray => Read.malformed b.read
    | _ => Read.malformed { b.read with flaw := .trailingText }

def read (shape : Shape α) (d : Draft) : Read α :=
  shape.readWith endOfItems d

end Shape

/-- Reads a whole document. -/
def Document.read {α : Type} (read : Draft → Read α) (document : Document) : Read α := do
  let a ← read document.root
  match document.trailing with
  | none => pure a
  | some start => Read.malformed ⟨.trailingText, .past start⟩

end BoundSql.Json
