import BoundSql.Connection.Charset
import BoundSql.Connection.Config
import BoundSql.Connection.Error
import BoundSql.FileTree
import BoundSql.Text.Letters
import BoundSql.Text.Numeral
import BoundSql.Url.Basic
import BoundSql.Url.Percent

/-! # Connection targets

What a connection is opened to, as a URL or the settings give it. A URL names a server by host and
port, or a local socket by its path; the pairs of its query are read in order, and the last one of
a name counts. Some targets fail before any server is asked.
-/

namespace BoundSql

structure Target where
  host : String := "localhost"
  port : UInt16 := 3306
  user : String := "root"
  password : Option String := none
  database : Option String := none
  /-- The path of a local socket that is used in place of host and port. -/
  socket : Option String := none
  charset : String := "utf8mb4"
  collation : Option String := none
  deriving DecidableEq, Repr

namespace Target

def address (t : Target) : String :=
  t.host ++ ":" ++ toString t.port.toNat

def ofConfig (c : ConnectionConfig) : Target where
  host := c.host
  port := c.port
  user := c.user
  password := if c.password.isEmpty then none else some c.password
  database := c.database?

/-- The ways to use an encrypted connection. -/
def encryptionModes : List String :=
  ["disabled", "preferred", "required", "verify_ca", "verify_identity"]

def checkEncryption (value : String) : Except DriverError Unit :=
  if encryptionModes.contains (Text.lower value) then .ok ()
  else .error (.configuration
    ("unknown value " ++ Text.shown value ++ " for " ++ Json.ticked "ssl_mode"))

def checkCapacity (value : String) : Except Text.NumeralError Unit :=
  (fun _ => ()) <$> Text.Numeral.unsigned 64 value

/-- The target after one pair of the query. -/
def withPair (t : Target) : String × String → Except DriverError Target
  | (name, value) =>
    if name = "sslmode" ∨ name = "ssl-mode" then
      match checkEncryption value with
      | .ok () => .ok t
      | .error e => .error (.configuration e.message)
    else if name = "statement-cache-capacity" then
      match checkCapacity value with
      | .ok () => .ok t
      | .error e => .error (.configuration e.message)
    else if name = "charset" then .ok { t with charset := value }
    else if name = "collation" then .ok { t with collation := some value }
    else if name = "socket" then .ok { t with socket := some value }
    else .ok t

/-- A part of a URL with its percent-encoding undone. -/
def decoded (part : String) : Except DriverError String :=
  match Url.decodeText part with
  | .ok s => .ok s
  | .error flaw => .error (.configuration flaw.message)

/-- A part that may be missing or empty. -/
def decodedUnlessEmpty (part : String) : Except DriverError (Option String) :=
  if part.isEmpty then .ok none else some <$> decoded part

/-- The path without the slashes in front of it. -/
def schemaPart (path : String) : String :=
  String.ofList (path.toList.dropWhile (· == '/'))

def ofParts (u : Url) : Except DriverError Target := do
  let user ← decodedUnlessEmpty u.user
  let password ← decodedUnlessEmpty (u.password.getD "")
  let database ← decodedUnlessEmpty (schemaPart u.path)
  let standard : Target := {}
  let t : Target := {
    host := u.host.getD standard.host
    port := u.port.getD standard.port
    user := user.getD standard.user
    password
    database }
  (Url.pairs (u.query.getD "")).foldlM withPair t

def ofUrl (url : String) : Except DriverError Target :=
  match Url.parse url with
  | .ok u => ofParts u
  | .error e => .error (.configuration e.message)

/-- The size in bytes that the path of a socket has to stay below. -/
def socketPathLimit : Nat := 108

/-- Why no socket accepts a connection at a path, if none does. A path that starts with a null
character is a name outside the file tree. -/
def socketFault? (files : FileTree) (path : String) : Option String :=
  match path.toList with
  | '\x00' :: name =>
    if socketPathLimit ≤ (String.ofList name).utf8ByteSize then
      some "abstract socket name must be shorter than SUN_LEN"
    else some (if name.isEmpty then PathFault.invalid else PathFault.refused).message
  | cs =>
    if cs.contains '\x00' then some "paths must not contain interior null bytes"
    else if socketPathLimit ≤ path.utf8ByteSize then some "path must be shorter than SUN_LEN"
    else if cs.isEmpty then some PathFault.invalid.message
    else match files.connect path with
      | .ok () => none
      | .error fault => some fault.message

/-- Why a host cannot even be looked up, if it cannot. -/
def hostFault? (host : String) : Option String :=
  if host.toList.contains '\x00' then some PathFault.nulInName.message else none

/-- What is wrong with the character set or the collation, if anything is. -/
def charsetFault? (t : Target) : Option String :=
  if !Charset.isKnown t.charset then some ("unsupported MySQL charset: " ++ t.charset)
  else match t.collation with
    | none => none
    | some name =>
      if Charset.isKnownCollation name then none
      else some ("unsupported MySQL collation: " ++ name)

/-- The error of opening a connection that fails without an answer from a server; none if a server
has to be asked. A socket in the file tree accepts the connection and never answers. -/
def fault? (files : FileTree) (seconds : Nat) (t : Target) : Option ConnectionError :=
  match charsetFault? t with
  | some reason => some (.database (.configuration reason))
  | none =>
    match t.socket with
    | some path =>
      match socketFault? files path with
      | some reason => some (.database (.communication reason))
      | none => some (.timeout t.address seconds)
    | none => (hostFault? t.host).map fun reason => .database (.communication reason)

end Target

end BoundSql
