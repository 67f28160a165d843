import BoundSql.Text.Utf8
import BoundSql.Url.Address
import BoundSql.Url.Domain
import BoundSql.Url.Percent
import BoundSql.Url.Scheme

/-! # Hosts of URLs

A host is a name or an address. In most schemes a name is kept as written, and only a few
characters are forbidden in it; in the others it is a domain, which may spell a number.
-/

namespace BoundSql.Url

inductive HostError where
  | missing
  | badAddress
  | badNumber
  | badCharacter
  | badDomain
  deriving DecidableEq, Repr

def HostError.message : HostError → String
  | missing => "empty host"
  | badAddress => "invalid IPv6 address"
  | badNumber => "invalid IPv4 address"
  | badCharacter => "invalid domain character"
  | badDomain => "invalid international domain name"

def forbidden : List Char :=
  ['\x00', '\t', '\n', '\r', ' ', '#', '/', ':', '<', '>', '?', '@', '[', '\\', ']', '^', '|']

/-- A byte of a host name: what is not printable in ASCII is percent-encoded. -/
def hostByte (b : UInt8) : List Char :=
  if 0x20 ≤ b ∧ b < 0x7f then [Char.ofUInt8 b]
  else '%' :: Text.hexByte b

/-- The name that is kept as written. -/
def plainName (cs : List Char) : Except HostError String :=
  if cs.any forbidden.contains then .error .badCharacter
  else .ok (String.ofList ((Text.Utf8.encode (String.ofList cs)).flatMap hostByte))

/-- The domain that a percent-encoded text names, or the number that it spells. -/
def domainName (cs : List Char) : Except HostError String :=
  match decodeText (String.ofList cs) with
  | .error _ => .error .badDomain
  | .ok text =>
    match Domain.ascii? text.toList with
    | none => .error .badDomain
    | some name =>
      if name.isEmpty then .error .missing
      else if Number.isMeant name then
        match Number.parse? name with
        | some n => .ok (Number.text n)
        | none => .error .badNumber
      else .ok (String.ofList name)

def readHost (kind : SchemeKind) (cs : List Char) : Except HostError String :=
  match cs with
  | '[' :: rest =>
    if rest.getLast? = some ']' then
      match Address.parse? rest.dropLast with
      | some groups => .ok (Address.text groups)
      | none => .error .badAddress
    else .error .badAddress
  | cs => if kind == .general then plainName cs else domainName cs

end BoundSql.Url
