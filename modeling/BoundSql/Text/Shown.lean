import BoundSql.Text.Printable

/-! # Shown text

A text inside a message stands between double quotes, with a backslash form for the quote, the
backslash, the common controls, and by code point for all that does not print.
-/

namespace BoundSql.Text

def hexDigits (n : Nat) : List Char :=
  Nat.toDigits 16 n

/-- The form of one character between the quotes. -/
def showChar (c : Char) : List Char :=
  if c = '\x00' then ['\\', '0']
  else if c = '\t' then ['\\', 't']
  else if c = '\r' then ['\\', 'r']
  else if c = '\n' then ['\\', 'n']
  else if c = '"' then ['\\', '"']
  else if c = '\\' then ['\\', '\\']
  else if isPrintable c then [c]
  else ['\\', 'u', '\x7b'] ++ hexDigits c.toNat ++ ['\x7d']

/-- A text as a message quotes it. -/
def shown (s : String) : String :=
  String.ofList ('"' :: s.toList.flatMap showChar ++ ['"'])

end BoundSql.Text
