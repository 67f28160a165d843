import BoundSql.Json.Place

/-! # Flaws of syntax

What is wrong with a text that is no JSON document, or that holds a number or a string that no value
stands for.
-/

namespace BoundSql.Json

inductive Flaw where
  | unfinishedArray
  | unfinishedObject
  | unfinishedString
  | unfinishedValue
  | missingColon
  | missingItemComma
  | missingMemberComma
  | misspeltWord
  | missingValue
  | badEscape
  | badNumber
  | hugeNumber
  | controlCharacter
  | nameNoString
  | loneSurrogate
  | halfPair
  | trailingComma
  | trailingText
  | tooDeep
  deriving DecidableEq, Repr

def Flaw.message : Flaw → String
  | unfinishedArray => "EOF while parsing a list"
  | unfinishedObject => "EOF while parsing an object"
  | unfinishedString => "EOF while parsing a string"
  | unfinishedValue => "EOF while parsing a value"
  | missingColon => "expected `:`"
  | missingItemComma => "expected `,` or `]`"
  | missingMemberComma => "expected `,` or `\x7d`"
  | misspeltWord => "expected ident"
  | missingValue => "expected value"
  | badEscape => "invalid escape"
  | badNumber => "invalid number"
  | hugeNumber => "number out of range"
  | controlCharacter => "control character (\\u0000-\\u001F) found while parsing a string"
  | nameNoString => "key must be a string"
  | loneSurrogate => "lone leading surrogate in hex escape"
  | halfPair => "unexpected end of hex escape"
  | trailingComma => "trailing comma"
  | trailingText => "trailing characters"
  | tooDeep => "recursion limit exceeded"

/-- A flaw, and where it is reported. -/
structure Defect where
  flaw : Flaw
  place : Place
  deriving DecidableEq, Repr

end BoundSql.Json
