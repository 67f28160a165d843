import BoundSql.Json.Reader

/-! # Connection settings

Where a server is and how to log in there. Every setting has a default, so a document gives only
those that differ.
-/

namespace BoundSql

open Json (Draft Read Field Shape)

structure ConnectionConfig where
  host : String := "localhost"
  port : UInt16 := 3306
  /-- The schema to use; empty for none. -/
  database : String := ""
  user : String := "root"
  password : String := ""
  timeoutSecs : UInt64 := 5
  logQueries : Bool := false
  deriving DecidableEq, Repr

namespace ConnectionConfig

def address (c : ConnectionConfig) : String :=
  c.host ++ ":" ++ toString c.port.toNat

/-- The schema to use, if there is one. -/
def database? (c : ConnectionConfig) : Option String :=
  if c.database.isEmpty then none else some c.database

def toJson (c : ConnectionConfig) : Json :=
  .object [("host", .string c.host), ("port", .ofNat c.port.toNat),
    ("database", .string c.database), ("user", .string c.user),
    ("password", .string c.password), ("timeout_secs", .ofNat c.timeoutSecs.toNat),
    ("log_queries", .bool c.logQueries)]

def shape : Shape ConnectionConfig where
  title := "struct ConnectionConfig"
  start := {}
  fields := [
    .defaulted "host" Draft.text fun host c => { c with host },
    .defaulted "port" (Draft.unsigned 16) fun n c => { c with port := .ofNat n },
    .defaulted "database" Draft.text fun database c => { c with database },
    .defaulted "user" Draft.text fun user c => { c with user },
    .defaulted "password" Draft.text fun password c => { c with password },
    .defaulted "timeout_secs" (Draft.unsigned 64) fun n c => { c with timeoutSecs := .ofNat n },
    .defaulted "log_queries" Draft.boolean fun logQueries c => { c with logQueries }]

def read (d : Draft) : Read ConnectionConfig :=
  shape.read d

/-- The settings for a log, which never shows the password. -/
def shown (c : ConnectionConfig) : String :=
  let fields := [("host", Text.shown c.host), ("port", toString c.port.toNat),
    ("database", Text.shown c.database), ("user", Text.shown c.user),
    ("password", Text.shown "<redacted>"), ("timeout_secs", toString c.timeoutSecs.toNat),
    ("log_queries", toString c.logQueries)]
  "ConnectionConfig \x7b " ++
    ", ".intercalate (fields.map fun (name, text) => name ++ ": " ++ text) ++ " \x7d"

end ConnectionConfig

end BoundSql
