import BoundSql.Json.Numeral

/-! # JSON tokens

A document is a sequence of tokens with blanks between them. A token that no value can stand for
(a number beyond all doubles, half of a surrogate pair) is still a token, since a reader may skip
it; a text that is no token at all ends the sequence.
-/

namespace BoundSql.Json

/-- How a value starts. -/
inductive Opening where
  | quote
  | brace
  | letterN
  | other
  deriving DecidableEq, Repr

inductive Token where
  | openArray
  | closeArray
  | openObject
  | closeObject
  | comma
  | colon
  | null
  | bool (b : Bool)
  /-- A number, unless it is too large for one. -/
  | number (n : Except Defect Number)
  /-- A string, unless it holds half of a surrogate pair. -/
  | string (s : Except Defect String)
  /-- A value that breaks off. -/
  | damaged (opening : Opening) (b : Break)
  | stray
  deriving Repr

/-- A token in its place. -/
structure Lexeme where
  token : Token
  start : Nat
  stop : Nat
  deriving Repr

/-- A character as it stands inside a string. -/
def escapeChar (c : Char) : List Char :=
  if c = '"' then ['\\', '"']
  else if c = '\\' then ['\\', '\\']
  else if c = '\x08' then ['\\', 'b']
  else if c = '\x0c' then ['\\', 'f']
  else if c = '\n' then ['\\', 'n']
  else if c = '\r' then ['\\', 'r']
  else if c = '\t' then ['\\', 't']
  else if c.toNat < 32 then
    ['\\', 'u', '0', '0', Text.hexDigit (c.toNat / 16), Text.hexDigit c.toNat]
  else [c]

def Number.text : Number → List Char
  | .integer n => (toString n).toList
  | .float x => x.document.toList

def Token.text : Token → List Char
  | .openArray => ['[']
  | .closeArray => [']']
  | .openObject => ['\x7b']
  | .closeObject => ['\x7d']
  | .comma => [',']
  | .colon => [':']
  | .null => ['n', 'u', 'l', 'l']
  | .bool true => ['t', 'r', 'u', 'e']
  | .bool false => ['f', 'a', 'l', 's', 'e']
  | .number (.ok n) => n.text
  | .string (.ok s) => '"' :: s.toList.flatMap escapeChar ++ ['"']
  | _ => []

mutual

def tokens : Json → List Token
  | .null => [.null]
  | .bool b => [.bool b]
  | .number n => [.number (.ok n)]
  | .string s => [.string (.ok s)]
  | .array items => .openArray :: itemTokens items
  | .object members => .openObject :: memberTokens members

def itemTokens : List Json → List Token
  | [] => [.closeArray]
  | [item] => item.tokens ++ [.closeArray]
  | item :: rest => item.tokens ++ .comma :: itemTokens rest

def memberTokens : List (String × Json) → List Token
  | [] => [.closeObject]
  | [(name, value)] => .string (.ok name) :: .colon :: value.tokens ++ [.closeObject]
  | (name, value) :: rest =>
    .string (.ok name) :: .colon :: value.tokens ++ .comma :: memberTokens rest

end

def render (j : Json) : String :=
  String.ofList (j.tokens.flatMap Token.text)

end BoundSql.Json
