/-! # Schemes of URLs

Most schemes only name what follows them. The schemes of the web always have a server, those of
files seldom one, and in both of them a backslash is as good as a slash.
-/

namespace BoundSql.Url

inductive SchemeKind where
  /-- A scheme with a server, and the port that it has unless another one is given. -/
  | web (port : Nat)
  | file
  | general
  deriving DecidableEq, Repr

namespace SchemeKind

def ofName : String → SchemeKind
  | "http" => web 80
  | "ws" => web 80
  | "https" => web 443
  | "wss" => web 443
  | "ftp" => web 21
  | "file" => file
  | _ => general

/-- The port that goes without saying. -/
def port? : SchemeKind → Option Nat
  | web port => some port
  | _ => none

def isSlash (kind : SchemeKind) (c : Char) : Bool :=
  c == '/' || c == '\\' && kind != general

def endsAuthority (kind : SchemeKind) (c : Char) : Bool :=
  kind.isSlash c || c == '?' || c == '#'

end SchemeKind

end BoundSql.Url
