import BoundSql.Text.Blank

/-! # File trees

A file tree is a working directory and the directories around it, as far as they are known. A path
is walked name by name; a name behind a file leads nowhere, be it a dot.
-/

namespace BoundSql

/-- Why the system refuses a path. -/
inductive PathFault where
  | notFound
  | noDevice
  | notDirectory
  | isDirectory
  | invalid
  | nameTooLong
  | refused
  | nulInName
  deriving DecidableEq, Repr

def PathFault.message : PathFault → String
  | notFound => "No such file or directory (os error 2)"
  | noDevice => "No such device or address (os error 6)"
  | notDirectory => "Not a directory (os error 20)"
  | isDirectory => "Is a directory (os error 21)"
  | invalid => "Invalid argument (os error 22)"
  | nameTooLong => "File name too long (os error 36)"
  | refused => "Connection refused (os error 111)"
  | nulInName => "file name contained an unexpected NUL byte"

inductive FileEntry where
  | file (bytes : List UInt8)
  /-- A socket that accepts connections and never answers. -/
  | socket
  | directory (entries : List (String × FileEntry))
  deriving Repr

namespace FileEntry

/-- The directory with one more entry, at a path below it; directories on the way are made. -/
def insert (e : FileEntry) : (path : List String) → List (String × FileEntry) →
    List (String × FileEntry)
  | [], entries => entries
  | [name], entries => (name, e) :: entries
  | name :: rest, entries =>
    let inner := match entries.lookup name with
      | some (directory inner) => inner
      | _ => []
    (name, directory (insert e rest inner)) :: entries

end FileEntry

structure FileTree where
  working : List (String × FileEntry) := []
  root : List (String × FileEntry) := []

namespace FileTree

/-- The top-level directories that are always there. -/
def standardRoot : List (String × FileEntry) :=
  ("dev", .directory [("null", .file [])]) ::
    ["bin", "etc", "home", "lib", "proc", "root", "sys", "tmp", "usr", "var"].map (·, .directory [])

/-- The working directory with the given entries; a name may be a path below it. -/
def ofEntries (entries : List (String × FileEntry)) : FileTree where
  working := entries.foldr (fun (path, e) rest => e.insert (Text.split '/' path) rest) []
  root := standardRoot

def maxPathSize : Nat := 4095

def maxNameSize : Nat := 255

/-- Walks on from the directory on top of the stack; `outermost` is around all of them. -/
def walk (outermost : List (String × FileEntry)) : (stack : List (List (String × FileEntry))) →
    List String → Except PathFault FileEntry
  | stack, [] => .ok (.directory (stack.head?.getD outermost))
  | stack, name :: rest =>
    if name = "" ∨ name = "." then walk outermost stack rest
    else if name = ".." then walk outermost stack.tail rest
    else if maxNameSize < name.utf8ByteSize then .error .nameTooLong
    else match (stack.head?.getD outermost).lookup name with
      | none => .error .notFound
      | some (.directory entries) => walk outermost (entries :: stack) rest
      | some e => if rest.isEmpty then .ok e else .error .notDirectory

/-- The entry that a path leads to. -/
def find (t : FileTree) (path : String) : Except PathFault FileEntry :=
  if path.toList.contains '\x00' then .error .nulInName
  else if path.isEmpty then .error .notFound
  else if maxPathSize < path.utf8ByteSize then .error .nameTooLong
  else match Text.split '/' path with
    | "" :: names => walk t.root [] names
    | names => walk [] [t.working] names

def read (t : FileTree) (path : String) : Except PathFault (List UInt8) := do
  match ← t.find path with
  | .file bytes => pure bytes
  | .socket => .error .noDevice
  | .directory _ => .error .isDirectory

/-- Whether a socket at a path accepts a connection. -/
def connect (t : FileTree) (path : String) : Except PathFault Unit := do
  match ← t.find path with
  | .socket => pure ()
  | _ => .error .refused

end FileTree

end BoundSql
