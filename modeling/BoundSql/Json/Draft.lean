import BoundSql.Json.Fault
import BoundSql.Json.Token

/-! # Drafts

A draft is a document as far as it can be read. It breaks off at the first flaw of its text, so
that a reader which goes through it in order meets that flaw in its place. Every value knows where
it starts and stops.
-/

namespace BoundSql.Json

structure Span where
  start : Nat := 0
  stop : Nat := 0
  deriving DecidableEq, Repr, Inhabited

structure Name where
  text : Except Defect String
  stop : Nat := 0
  deriving Repr

inductive Ending where
  | closed (stop : Nat)
  /-- The text breaks off; `stray` is what stands in the place of the first name of an object, if
  anything does. -/
  | broken (b : Break) (stray : Option (Except Defect (Found × Place)))
  deriving Repr

inductive Draft where
  | absent (start : Nat) (defect : Defect)
  /-- A value that cannot be read. A reader that skips it meets `skipped`, if it meets anything. -/
  | damaged (start : Nat) (opening : Opening) (read : Defect) (skipped : Option Defect)
  | null (span : Span)
  | bool (b : Bool) (span : Span)
  | number (n : Number) (span : Span)
  | string (s : String) (span : Span)
  | array (items : List Draft) (start : Nat) (ending : Ending)
  | object (members : List (Name × Draft)) (start : Nat) (ending : Ending)
  deriving Repr

namespace Ending

def stop? : Ending → Option Nat
  | closed stop => some stop
  | broken _ _ => none

/-- What a reader meets at the end. -/
def check : Ending → Except Defect Unit
  | closed _ => .ok ()
  | broken b _ => .error b.read

/-- What a reader meets at the end that skips the container. -/
def skipped : Ending → Option Defect
  | closed _ => none
  | broken b _ => some b.skipped

end Ending

namespace Draft

def start : Draft → Nat
  | absent start _ => start
  | damaged start _ _ _ => start
  | null span => span.start
  | bool _ span => span.start
  | number _ span => span.start
  | string _ span => span.start
  | array _ start _ => start
  | object _ start _ => start

/-- Where a whole value stops. -/
def stop : Draft → Nat
  | absent start _ => start
  | damaged start _ _ _ => start
  | null span => span.stop
  | bool _ span => span.stop
  | number _ span => span.stop
  | string _ span => span.stop
  | array _ start ending => ending.stop?.getD start
  | object _ start ending => ending.stop?.getD start

/-- What a reader that cannot use the draft reports as found, and where: behind a scalar, in front
of a container. -/
def found : Draft → Except Defect (Found × Place)
  | absent _ defect => .error defect
  | damaged _ _ read _ => .error read
  | null span => .ok (.null, .behind span.stop)
  | bool b span => .ok (.boolean b, .behind span.stop)
  | number n span => .ok (.number n, .behind span.stop)
  | string s span => .ok (.string s, .behind span.stop)
  | array _ start _ => .ok (.sequence, .behind start)
  | object _ start _ => .ok (.map, .behind start)

mutual

/-- The first defect that a reader meets which skips the draft. -/
def skipped : Draft → Option Defect
  | absent _ defect => some defect
  | damaged _ _ _ skipped => skipped
  | array items _ ending => (skippedItems items).or ending.skipped
  | object members _ ending => (skippedMembers members).or ending.skipped
  | _ => none

def skippedItems : List Draft → Option Defect
  | [] => none
  | d :: rest => d.skipped.or (skippedItems rest)

def skippedMembers : List (Name × Draft) → Option Defect
  | [] => none
  | (_, d) :: rest => d.skipped.or (skippedMembers rest)

end

mutual

/-- The draft with the containers below `depth` levels made unreadable. -/
def limit : (depth : Nat) → Draft → Draft
  | 0, array items start ending =>
    damaged start .other ⟨.tooDeep, .past start⟩ (skipped (array items start ending))
  | 0, object members start ending =>
    damaged start .brace ⟨.tooDeep, .past start⟩ (skipped (object members start ending))
  | depth + 1, array items start ending => array (limitItems depth items) start ending
  | depth + 1, object members start ending => object (limitMembers depth members) start ending
  | _, d => d

def limitItems : (depth : Nat) → List Draft → List Draft
  | _, [] => []
  | depth, d :: rest => limit depth d :: limitItems depth rest

def limitMembers : (depth : Nat) → List (Name × Draft) → List (Name × Draft)
  | _, [] => []
  | depth, (name, d) :: rest => (name, limit depth d) :: limitMembers depth rest

end

mutual

/-- The value of a draft, or the first defect that a reader of all of it meets. -/
def whole : Draft → Except Defect Json
  | absent _ defect => .error defect
  | damaged _ _ read _ => .error read
  | null _ => .ok .null
  | bool b _ => .ok (.bool b)
  | number n _ => .ok (.number n)
  | string s _ => .ok (.string s)
  | array items _ ending => do
    let js ← wholeItems items
    ending.check
    pure (.array js)
  | object members _ ending => do
    let js ← wholeMembers members
    ending.check
    pure (.object js)

def wholeItems : List Draft → Except Defect (List Json)
  | [] => .ok []
  | d :: rest => do
    let j ← d.whole
    let js ← wholeItems rest
    pure (j :: js)

def wholeMembers : List (Name × Draft) → Except Defect (List (String × Json))
  | [] => .ok []
  | (name, d) :: rest => do
    let text ← name.text
    let j ← d.whole
    let js ← wholeMembers rest
    pure ((text, j) :: js)

end

end Draft

mutual

/-- The draft of a value that stands in no text. -/
def draft : Json → Draft
  | .null => .null {}
  | .bool b => .bool b {}
  | .number n => .number n {}
  | .string s => .string s {}
  | .array items => .array (itemDrafts items) 0 (.closed 0)
  | .object members => .object (memberDrafts members) 0 (.closed 0)

def itemDrafts : List Json → List Draft
  | [] => []
  | j :: rest => j.draft :: itemDrafts rest

def memberDrafts : List (String × Json) → List (Name × Draft)
  | [] => []
  | (name, j) :: rest => ({ text := .ok name }, j.draft) :: memberDrafts rest

end

end BoundSql.Json
