import BoundSql.Url.Host
import BoundSql.Url.Path

/-! # URLs

A URL is a scheme, an authority with user, host and port, a path and a query. Its parts are kept as
written, percent-encoding included; the host is brought into its usual form, and the dot segments
of the path are resolved. What follows a hash sign is not looked at.
-/

namespace BoundSql

structure Url where
  scheme : String
  user : String := ""
  password : Option String := none
  host : Option String := none
  port : Option UInt16 := none
  path : String := ""
  query : Option String := none
  deriving DecidableEq, Repr

namespace Url

inductive ParseError where
  | noScheme
  | badPort
  | badHost (e : HostError)
  deriving DecidableEq, Repr

def ParseError.message : ParseError → String
  | noScheme => "relative URL without a base"
  | badPort => "invalid port number"
  | badHost e => e.message

def isFiller (c : Char) : Bool :=
  c ≤ ' '

/-- The text without fillers around it, and without tabs and line ends anywhere. -/
def strip (cs : List Char) : List Char :=
  (((cs.dropWhile isFiller).reverse.dropWhile isFiller).reverse).filter fun c =>
    c ≠ '\t' ∧ c ≠ '\n' ∧ c ≠ '\r'

def isSchemeChar (c : Char) : Bool :=
  c.isAlphanum || c == '+' || c == '-' || c == '.'

def scheme? (cs : List Char) : Option (List Char × List Char) :=
  let name := cs.takeWhile isSchemeChar
  match name, cs.dropWhile isSchemeChar with
  | first :: _, ':' :: rest => if first.isAlpha then some (name.map Char.toLower, rest) else none
  | _, _ => none

/-- The text in front of the last `sep`, and what follows it. -/
def splitLast (sep : Char) (cs : List Char) : Option (List Char × List Char) :=
  if cs.contains sep then
    let after := cs.reverse.takeWhile (· ≠ sep)
    some (cs.take (cs.length - after.length - 1), after.reverse)
  else none

/-- The user information in front of the host, and the text from the host on. A lone at sign gives
none, and a host has to follow it. -/
def userInfo (kind : SchemeKind) (cs : List Char) :
    Except ParseError (Option (List Char) × List Char) :=
  match splitLast '@' (cs.takeWhile (!kind.endsAuthority ·)) with
  | none => .ok (none, cs)
  | some (info, after) =>
    let rest := after ++ cs.dropWhile (!kind.endsAuthority ·)
    if info.isEmpty then
      if after.isEmpty && !rest.isEmpty then .error (.badHost .missing) else .ok (none, rest)
    else .ok (some info, rest)

/-- The host at the front of a text, and what follows it. A colon within brackets belongs to the
host. -/
def splitHost (kind : SchemeKind) : (bracketed : Bool) → List Char → List Char × List Char
  | _, [] => ([], [])
  | bracketed, c :: cs =>
    if kind.endsAuthority c || (c == ':' && !bracketed) then ([], c :: cs)
    else
      let (host, rest) := splitHost kind (if c == '[' then true else c != ']' && bracketed) cs
      (c :: host, rest)

/-- The host of a URL; an empty text is none, where a URL may have none. -/
def host? (kind : SchemeKind) (cs : List Char) : Except ParseError (Option String) :=
  if !cs.isEmpty then some <$> (readHost kind cs).mapError .badHost
  else if kind == .general then .ok none
  else .error (.badHost .missing)

/-- The port behind a host, and what follows it. The port of the scheme is none. -/
def port? (kind : SchemeKind) : List Char → Except ParseError (Option UInt16 × List Char)
  | ':' :: cs =>
    let digits := cs.takeWhile Char.isDigit
    let rest := cs.dropWhile Char.isDigit
    let n := Text.decimalValue digits
    if 2 ^ 16 ≤ n then .error .badPort
    else if rest.head?.any fun c => !kind.endsAuthority c && c != '\\' then .error .badPort
    else .ok (if digits.isEmpty || kind.port? == some n then none else some (.ofNat n), rest)
  | cs => .ok (none, cs)

/-- The path at the front of a text, and what follows it. -/
def splitPath (cs : List Char) : List Char × List Char :=
  cs.span fun c => c ≠ '?' ∧ c ≠ '#'

/-- The query that follows a path. -/
def query? : List Char → Option String
  | '?' :: cs => some (String.ofList (cs.takeWhile (· ≠ '#')))
  | _ => none

/-- The user and the password; an empty password is none. -/
def credentials (info : List Char) : String × Option String :=
  let password := (info.dropWhile (· ≠ ':')).drop 1
  (String.ofList (info.takeWhile (· ≠ ':')),
    if password.isEmpty then none else some (String.ofList password))

/-- The URL of a scheme whose authority starts the text. Only a URL without user and port may leave
out the host. -/
def withAuthority (scheme : String) (kind : SchemeKind) (cs : List Char) :
    Except ParseError Url := do
  let (info, cs) ← userInfo kind cs
  let (hostText, cs) := splitHost kind false cs
  let host ← host? kind hostText
  if host.isNone && cs.head? == some ':' then throw (.badHost .missing)
  let (port, cs) ← port? kind cs
  let (user, password) := credentials (info.getD [])
  if host.isNone && (!user.isEmpty || password.isSome) then throw (.badHost .missing)
  let (path, cs) := splitPath cs
  let path := if path.isEmpty && kind == .general then "" else resolvedPath kind path
  pure { scheme, user, password, host, port, path, query := query? cs }

/-- The URL of a scheme without an authority; its path is resolved if it starts with a slash. -/
def withoutAuthority (scheme : String) (cs : List Char) : Url :=
  let (path, rest) := splitPath cs
  { scheme
    path := if path.head? == some '/' then resolvedPath .general path else String.ofList path
    query := query? rest }

/-- The host of a file; the local one is none. -/
def fileHost? (cs : List Char) : Except ParseError (Option String) := do
  if cs.isEmpty then pure none
  else
    let name ← (readHost .file cs).mapError .badHost
    pure (if name = "localhost" then none else some name)

/-- The URL of a file on a host. A file on a drive has no host. -/
def onHost (host : Option String) (cs : List Char) : Url :=
  let (path, rest) := splitPath cs
  let w := walk .file path
  { scheme := "file"
    host := if w.onDrive then none else host
    path := w.path .file
    query := query? rest }

/-- The URL of a file. A host stands behind two slashes, unless it is the letter of a drive. -/
def ofFile (cs : List Char) : Except ParseError Url :=
  match cs with
  | a :: b :: rest =>
    if SchemeKind.file.isSlash a && SchemeKind.file.isSlash b then
      let name := rest.takeWhile (!SchemeKind.file.endsAuthority ·)
      if isDrive name then .ok (onHost none rest)
      else (onHost · (rest.drop name.length)) <$> fileHost? name
    else .ok (onHost none cs)
  | cs => .ok (onHost none cs)

def ofScheme (scheme : String) (cs : List Char) : Except ParseError Url :=
  match SchemeKind.ofName scheme with
  | .file => ofFile cs
  | .web port =>
    let kind := SchemeKind.web port
    withAuthority scheme kind (cs.dropWhile kind.isSlash)
  | .general =>
    match cs with
    | '/' :: '/' :: rest => withAuthority scheme .general rest
    | cs => .ok (withoutAuthority scheme cs)

def parse (s : String) : Except ParseError Url :=
  match scheme? (strip s.toList) with
  | none => .error .noScheme
  | some (scheme, rest) => ofScheme (String.ofList scheme) rest

end Url

end BoundSql
