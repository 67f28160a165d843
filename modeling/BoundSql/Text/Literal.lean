/-! # String literals

A literal stands between two equal quotes. Inside it a backslash is doubled and the quote is
doubled; a reader takes the character after a backslash as it stands, and a doubled quote as one.
-/

namespace BoundSql.Text.Literal

/-- The characters between the quotes. -/
def escape (quote : Char) : List Char → List Char
  | [] => []
  | c :: cs =>
    if c = '\\' then '\\' :: '\\' :: escape quote cs
    else if c = quote then quote :: quote :: escape quote cs
    else c :: escape quote cs

def write (quote : Char) (cs : List Char) : List Char :=
  quote :: escape quote cs ++ [quote]

/-- What a literal spells and what follows it, read from just behind the opening quote. -/
def readRest (quote : Char) : List Char → Option (List Char × List Char)
  | [] => none
  | '\\' :: [] => none
  | '\\' :: c :: cs => (readRest quote cs).map fun (body, rest) => (c :: body, rest)
  | c :: cs =>
    if c = quote then
      match cs with
      | [] => some ([], [])
      | d :: ds =>
        if d = quote then (readRest quote ds).map fun (body, rest) => (quote :: body, rest)
        else some ([], d :: ds)
    else (readRest quote cs).map fun (body, rest) => (c :: body, rest)

def isQuote (c : Char) : Bool :=
  c == '\'' || c == '"'

/-- What the literal at the front spells and what follows it. -/
def read : List Char → Option (List Char × List Char)
  | [] => none
  | c :: cs => if isQuote c then readRest c cs else none

/-- Where a reader of statement text stands. -/
inductive Place where
  | outside
  /-- In a literal opened by `quote`; `text` is spelled so far, last character first. -/
  | inside (quote : Char) (text : List Char)
  /-- Behind a backslash in a literal. -/
  | escaped (quote : Char) (text : List Char)
  /-- Behind a quote in a literal: its end, unless the quote is doubled. -/
  | closing (quote : Char) (text : List Char)
  deriving DecidableEq, Repr

/-- The place after one more character, and the literal that has ended there. -/
def Place.step : Place → Char → Place × Option (List Char)
  | .outside, c => (if isQuote c then .inside c [] else .outside, none)
  | .inside q text, c =>
    (if c = '\\' then .escaped q text else if c = q then .closing q text else .inside q (c :: text),
      none)
  | .escaped q text, c => (.inside q (c :: text), none)
  | .closing q text, c =>
    if c = q then (.inside q (q :: text), none)
    else (if isQuote c then .inside c [] else .outside, some text.reverse)

def scan : Place → List Char → List (List Char) × Place
  | place, [] => ([], place)
  | place, c :: cs =>
    let (next, ended) := place.step c
    let (rest, last) := scan next cs
    (ended.toList ++ rest, last)

/-- The literals of a whole statement, in order; none if it ends inside a literal. -/
def all (s : String) : Option (List String) :=
  match scan .outside s.toList with
  | (texts, .outside) => some (texts.map String.ofList)
  | (texts, .closing _ text) => some ((texts ++ [text.reverse]).map String.ofList)
  | _ => none

end BoundSql.Text.Literal

namespace BoundSql.Text

def quoteWith (quote : Char) (s : String) : String :=
  String.ofList (Literal.write quote s.toList)

end BoundSql.Text
