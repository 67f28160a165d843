import BoundSql.Text.Numeral

/-! # Reading a command line

A command line is read word by word. A word is a command, an option by its long name, a group of
short ones, the value of the option before it, or an operand; behind `--` every word is an operand.
An option waits for its value until the next word decides, so faults of a value show later than
faults of the words around it.
-/

namespace BoundSql.CommandLine

inductive Form where
  | flag
  | text
  | path
  | port
  | seconds
  | help
  | version
  deriving DecidableEq, Repr

def Form.takesValue : Form → Bool
  | flag | help | version => false
  | _ => true

inductive Content where
  | flag
  | text (s : String)
  | number (n : Nat)
  deriving DecidableEq, Repr

inductive UsageError where
  | helpRequested
  | versionRequested
  | nothingGiven
  | missingCommand
  | unknownCommand
  | unknownArgument
  | missingArgument
  | conflict
  | badNumber
  | missingValue
  | surplusValue
  deriving DecidableEq, Repr

/-- Whether the user asked for the text that ends the reading. -/
def UsageError.isRequest : UsageError → Bool
  | helpRequested | versionRequested => true
  | _ => false

def UsageError.message : UsageError → String
  | helpRequested => "help requested"
  | versionRequested => "version requested"
  | nothingGiven => "no command and no options"
  | missingCommand => "a command is required"
  | unknownCommand => "unrecognized command"
  | unknownArgument => "unexpected argument"
  | missingArgument => "a required argument is missing"
  | conflict => "arguments cannot be used together"
  | badNumber => "invalid number"
  | missingValue => "a value is required"
  | surplusValue => "a flag takes no value"

structure Argument where
  name : String
  form : Form
  short : Option Char := none
  required : Bool := false
  /-- The environment variable that stands in for the option. -/
  environment : Option String := none
  deriving DecidableEq, Repr

/-- What a text means as the value of an argument. A port may have a sign, even in front of zero. -/
def Form.check (form : Form) (value : String) : Except UsageError Content :=
  match form with
  | path => if value.isEmpty then .error .missingValue else .ok (.text value)
  | port =>
    match Text.Numeral.signed 64 value with
    | .ok n => if 0 ≤ n ∧ n < 2 ^ 16 then .ok (.number n.toNat) else .error .badNumber
    | .error _ => .error .badNumber
  | seconds =>
    match Text.Numeral.unsigned 64 value with
    | .ok n => .ok (.number n)
    | .error _ => .error .badNumber
  | _ => .ok (.text value)

/-- The words that a program or one of its commands understands. -/
structure Grammar where
  options : List Argument
  operand : Option Argument := none
  commands : List String := []
  /-- Pairs of options of which only one may be given. -/
  exclusive : List (String × String) := []
  deriving Repr

def Grammar.arguments (g : Grammar) : List Argument :=
  g.operand.toList ++ g.options

/-- What has been given, by name and in order. -/
structure Given where
  entries : List (String × Content) := []
  deriving Repr

namespace Given

def content? (given : Given) (name : String) : Option Content :=
  given.entries.lookup name

def has (given : Given) (name : String) : Bool :=
  (given.content? name).isSome

def text? (given : Given) (name : String) : Option String :=
  match given.content? name with
  | some (.text s) => some s
  | _ => none

def number? (given : Given) (name : String) : Option Nat :=
  match given.content? name with
  | some (.number n) => some n
  | _ => none

/-- Enters an argument, which must not have been given before. -/
def enter (given : Given) (name : String) (content : Content) : Except UsageError Given :=
  if given.has name then .error .conflict else .ok ⟨given.entries ++ [(name, content)]⟩

def enterValue (given : Given) (a : Argument) (value : String) : Except UsageError Given :=
  if given.has a.name then .error .conflict
  else do given.enter a.name (← a.form.check value)

end Given

/-- How far the words have been read. -/
structure Progress where
  given : Given := {}
  /-- The argument that is not entered yet, with its value if it has come. -/
  pending : Option (Argument × Option String) := none
  operandsOnly : Bool := false
  deriving Repr

namespace Progress

/-- Whether the next word may be the value of an option. -/
def awaitsValue (p : Progress) : Bool :=
  match p.pending with
  | some (_, none) => true
  | _ => false

/-- Whether an argument has occurred. -/
def hasSeen (p : Progress) (a : Argument) : Bool :=
  p.given.has a.name || p.pending.any (·.1.name == a.name)

/-- Enters the pending argument. -/
def settle (p : Progress) : Except UsageError Progress :=
  match p.pending with
  | none => .ok p
  | some (_, none) => .error .missingValue
  | some (a, some value) => do
    let given ← p.given.enterValue a value
    pure { p with given, pending := none }

def start (p : Progress) (a : Argument) (value : Option String) : Except UsageError Progress := do
  let p ← p.settle
  pure { p with pending := some (a, value) }

def attach (p : Progress) (a : Argument) (value : String) : Except UsageError Progress := do
  let p ← p.settle
  let given ← p.given.enterValue a value
  pure { p with given }

def turnOn (p : Progress) (a : Argument) : Except UsageError Progress := do
  let p ← p.settle
  match a.form with
  | .help => throw .helpRequested
  | .version => throw .versionRequested
  | _ =>
    let given ← p.given.enter a.name .flag
    pure { p with given }

end Progress

/-- What a word looks like. -/
inductive Word where
  | separator
  | long (name : String) (value : Option String)
  | shorts (letters : List Char)
  | plain
  deriving DecidableEq, Repr

/-- The look of a word. A single dash is an ordinary word. -/
def Word.ofString (s : String) : Word :=
  match s.toList with
  | ['-', '-'] => separator
  | '-' :: '-' :: cs =>
    let name := String.ofList (cs.takeWhile (· ≠ '='))
    match cs.dropWhile (· ≠ '=') with
    | [] => long name none
    | _ :: value => long name (some (String.ofList value))
  | '-' :: c :: cs => shorts (c :: cs)
  | _ => plain

namespace Grammar

variable (g : Grammar)

def readLong (p : Progress) (name : String) (value : Option String) :
    Except UsageError Progress :=
  match g.options.find? (·.name == name) with
  | none => .error .unknownArgument
  | some a =>
    if a.form.takesValue then
      match value with
      | some v => p.attach a v
      | none => p.start a none
    else if value.isSome then .error .surplusValue
    else p.turnOn a

/-- The value that follows the letter of an option in the same word; an equals sign may stand
between. -/
def attached : List Char → Option String
  | [] => none
  | '=' :: value => some (String.ofList value)
  | value => some (String.ofList value)

def readShorts (p : Progress) : List Char → Except UsageError Progress
  | [] => .ok p
  | c :: cs =>
    match g.options.find? (·.short == some c) with
    | none => .error .unknownArgument
    | some a =>
      if a.form.takesValue then
        match attached cs with
        | some v => p.attach a v
        | none => p.start a none
      else do readShorts (← p.turnOn a) cs

def readOperand (p : Progress) (word : String) : Except UsageError Progress :=
  match g.operand with
  | some a => if p.hasSeen a then .error .unknownArgument else p.start a (some word)
  | none =>
    if g.commands.isEmpty || (p.operandsOnly && g.commands.contains word) then
      .error .unknownArgument
    else .error .unknownCommand

def readPlain (p : Progress) (word : String) : Except UsageError Progress :=
  match p.pending with
  | some (a, none) => .ok { p with pending := some (a, some word) }
  | _ => g.readOperand p word

def readWord (p : Progress) (word : String) : Except UsageError Progress :=
  if p.operandsOnly then g.readOperand p word
  else match Word.ofString word with
    | .separator => .ok { p with operandsOnly := true }
    | .long name value => g.readLong p name value
    | .shorts letters => g.readShorts p letters
    | .plain => g.readPlain p word

/-- Whether a word is a command in its place. -/
def isCommand (p : Progress) (word : String) : Bool :=
  !p.operandsOnly && !p.awaitsValue && g.commands.contains word

/-- Reads words up to the first command, and gives it with the words that follow. -/
def readWords (p : Progress) : List String →
    Except UsageError (Progress × Option (String × List String))
  | [] => .ok (p, none)
  | word :: rest =>
    if g.isCommand p word then .ok (p, some (word, rest))
    else do readWords (← g.readWord p word) rest

/-- Enters the options that only the environment gives. -/
def completeFrom (environment : String → Option String) (given : Given) :
    Except UsageError Given :=
  g.options.foldlM (fun given a =>
    match a.environment.bind environment with
    | some value => if given.has a.name then .ok given else given.enterValue a value
    | none => .ok given) given

/-- Refuses options that exclude each other, then the lack of a required argument. -/
def validate (given : Given) : Except UsageError Given :=
  if g.exclusive.any fun (a, b) => given.has a && given.has b then .error .conflict
  else if g.arguments.any fun a => a.required && !given.has a.name then .error .missingArgument
  else .ok given

def readAll (words : List String) : Except UsageError Given := do
  let (p, _) ← g.readWords {} words
  g.validate (← p.settle).given

end Grammar

end BoundSql.CommandLine
