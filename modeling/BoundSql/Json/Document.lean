import BoundSql.Json.Draft
import BoundSql.Json.Lexer

/-! # Documents

Parsing is a walk along the tokens of a text with a stack of the containers still open. Where a
token is out of place, or the text ends too early, the draft breaks off; a reader that skips the
container may meet another flaw there than one that reads it.
-/

namespace BoundSql.Json

/-- A whole text: its value, and where something follows it. -/
structure Document where
  root : Draft
  trailing : Option Nat
  deriving Repr

/-- A container still open, its contents last first, and where it starts. A member whose value is
awaited has been entered under its name as absent. -/
inductive Frame where
  | array (items : List Draft) (start : Nat)
  | object (members : List (Name × Draft)) (start : Nat)

/-- What the next token may be. -/
inductive Awaiting where
  | value
  | itemOrEnd
  | item
  | nameOrEnd
  | name
  | colon
  | commaOrEnd
  deriving DecidableEq, Repr

namespace Frame

def draft (ending : Ending) : Frame → Draft
  | .array items start => .array items.reverse start ending
  | .object members start => .object members.reverse start ending

def put (d : Draft) : Frame → Frame
  | .array items start => .array (d :: items) start
  | .object ((name, _) :: members) start => .object ((name, d) :: members) start
  | .object [] start => .object [] start

/-- Why the text breaks off when it ends behind an item or a member. -/
def unfinished : Frame → Flaw
  | .array _ _ => .unfinishedArray
  | .object _ _ => .unfinishedObject

/-- What is missing when anything else follows an item or a member. -/
def missingComma : Frame → Flaw
  | .array _ _ => .missingItemComma
  | .object _ _ => .missingMemberComma

end Frame

/-- A value inside the containers around it, none of which is closed because of the break. -/
def breakOff (b : Break) (d : Draft) : List Frame → Draft
  | [] => d
  | frame :: outer => breakOff b ((frame.put d).draft (.broken b none)) outer

/-- The draft of a text that breaks off between the values of the innermost container. -/
def breakWithin (b : Break) (stray : Option (Except Defect (Found × Place))) :
    List Frame → Draft
  | [] => .absent 0 b.read
  | frame :: outer => breakOff b (frame.draft (.broken b stray)) outer

/-- A parser is inside containers, or it has read a whole value. -/
inductive Parser where
  | inside (stack : List Frame) (awaiting : Awaiting)
  | finished (root : Draft)

namespace Parser

/-- The parser after a whole value. -/
def deliver (d : Draft) : List Frame → Parser
  | [] => .finished d
  | frame :: outer => .inside (frame.put d :: outer) .commaOrEnd

/-- The parser after the end of the innermost container. -/
def close (stop : Nat) : List Frame → Parser
  | [] => .finished (.absent stop ⟨.missingValue, .past stop⟩)
  | frame :: outer => deliver (frame.draft (.closed stop)) outer

/-- The draft of a value that is one token, whole or not. -/
def single (l : Lexeme) : Draft :=
  let span : Span := ⟨l.start, l.stop⟩
  match l.token with
  | .null => .null span
  | .bool b => .bool b span
  | .number (.ok n) => .number n span
  | .number (.error defect) => .damaged l.start .other defect none
  | .string (.ok s) => .string s span
  | .string (.error defect) => .damaged l.start .quote defect none
  | .damaged opening b => .damaged l.start opening b.read (some b.skipped)
  | _ => .absent l.start ⟨.missingValue, .past l.start⟩

/-- What a reader finds that meets the token in the place of something else. -/
def strayAt (l : Lexeme) : Except Defect (Found × Place) :=
  match l.token with
  | .openArray => .ok (.sequence, .behind l.start)
  | .openObject => .ok (.map, .behind l.start)
  | _ => (single l).found

/-- The parser after a token where a value may stand, or the broken draft. -/
def value (stack : List Frame) (l : Lexeme) : Except Draft Parser :=
  match l.token with
  | .openArray => .ok (.inside (.array [] l.start :: stack) .itemOrEnd)
  | .openObject => .ok (.inside (.object [] l.start :: stack) .nameOrEnd)
  | _ =>
    let d := single l
    match d, d.skipped with
    | _, none => .ok (deliver d stack)
    | .damaged _ _ read _, some skipped => .error (breakOff ⟨read, skipped⟩ d stack)
    | _, some defect => .error (breakOff ⟨defect, defect⟩ d stack)

/-- The parser after a token where a name may stand, or the broken draft. -/
def name (stack : List Frame) (l : Lexeme) (stray : Option (Except Defect (Found × Place))) :
    Except Draft Parser :=
  match stack, l.token with
  | .object members start :: outer, .string s =>
    let awaited := Draft.absent l.stop ⟨.missingColon, .past l.stop⟩
    .ok (.inside (.object ((⟨s, l.stop⟩, awaited) :: members) start :: outer) .colon)
  | .object members start :: outer, .damaged .quote b =>
    let member := (⟨.error b.read, l.start⟩, Draft.absent l.start b.skipped)
    .error (breakWithin b none (.object (member :: members) start :: outer))
  | _, _ => .error (breakWithin (.of .nameNoString (.past l.start)) stray stack)

/-- The parser after one more token, or the broken draft if the token is out of place. -/
def step (stack : List Frame) (awaiting : Awaiting) (l : Lexeme) : Except Draft Parser :=
  match awaiting, l.token with
  | .value, _ => value stack l
  | .itemOrEnd, .closeArray => .ok (close l.stop stack)
  | .itemOrEnd, _ => value stack l
  | .item, .closeArray =>
    .error (breakWithin
      ⟨⟨.trailingComma, .past l.start⟩, ⟨.missingValue, .past l.start⟩⟩ none stack)
  | .item, _ => value stack l
  | .nameOrEnd, .closeObject => .ok (close l.stop stack)
  | .nameOrEnd, _ => name stack l (some (strayAt l))
  | .name, .closeObject =>
    .error (breakWithin
      ⟨⟨.trailingComma, .past l.start⟩, ⟨.nameNoString, .past l.start⟩⟩ none stack)
  | .name, _ => name stack l none
  | .colon, .colon => .ok (.inside stack .value)
  | .colon, _ =>
    let b := Break.of .missingColon (.past l.start)
    .error (breakOff b (.absent l.start b.read) stack)
  | .commaOrEnd, t =>
    match stack, t with
    | .array _ _ :: _, .comma => .ok (.inside stack .item)
    | .array _ _ :: _, .closeArray => .ok (close l.stop stack)
    | .object _ _ :: _, .comma => .ok (.inside stack .name)
    | .object _ _ :: _, .closeObject => .ok (close l.stop stack)
    | frame :: _, _ => .error (breakWithin (.of frame.missingComma (.past l.start)) none stack)
    | [], _ => .error (.absent l.start ⟨.missingValue, .past l.start⟩)

/-- The draft of a text that ends at `size` while something is awaited. -/
def atEnd (size : Nat) (stack : List Frame) : Awaiting → Draft
  | .value => breakOff (end_ .unfinishedValue) (.absent size (end_ .unfinishedValue).read) stack
  | .itemOrEnd => breakWithin (end_ .unfinishedArray) none stack
  | .item => breakWithin (end_ .unfinishedValue) none stack
  | .nameOrEnd => breakWithin (end_ .unfinishedObject) none stack
  | .name =>
    breakWithin ⟨(end_ .unfinishedValue).read, (end_ .unfinishedObject).read⟩ none stack
  | .colon => breakOff (end_ .unfinishedObject) (.absent size (end_ .unfinishedObject).read) stack
  | .commaOrEnd =>
    breakWithin (end_ ((stack.head?.map Frame.unfinished).getD .unfinishedValue)) none stack
where
  end_ (flaw : Flaw) : Break := .of flaw (.behind size)

/-- The document that the remaining tokens complete; the text has `size` bytes. -/
def run (size : Nat) : Parser → List Lexeme → Document
  | .finished root, ls => ⟨root, ls.head?.map Lexeme.start⟩
  | .inside stack awaiting, [] => ⟨atEnd size stack awaiting, none⟩
  | .inside stack awaiting, l :: ls =>
    match step stack awaiting l with
    | .error root => ⟨root, none⟩
    | .ok next => run size next ls

end Parser

/-- How many containers may stand inside one another. -/
def maxDepth : Nat := 127

namespace Document

/-- The document of a text, without a limit on its depth. -/
def parse (s : String) : Document :=
  (Parser.inside [] .value).run s.utf8ByteSize (tokenize 0 s.toList)

def ofString (s : String) : Document :=
  let document := parse s
  { document with root := document.root.limit maxDepth }

def ofDraft (d : Draft) : Document :=
  ⟨d.limit maxDepth, none⟩

end Document

end BoundSql.Json
