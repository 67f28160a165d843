import BoundSql.Text.Blank
import BoundSql.Url.Scheme

/-! # Paths of URLs

A path is walked segment by segment. One dot stays where it is, and two dots go up, unless the last
segment is the letter of a drive. Files have their drive at the front, with a colon behind the
letter.
-/

namespace BoundSql.Url

/-- Whether a segment stands for the segment above. -/
def isParent (segment : List Char) : Bool :=
  let text := String.ofList (segment.map Char.toLower)
  ["..", "%2e%2e", "%2e.", ".%2e"].contains text

def isSelf (segment : List Char) : Bool :=
  let text := String.ofList (segment.map Char.toLower)
  [".", "%2e"].contains text

/-- Whether a segment is the letter of a drive with its mark. -/
def isDrive : List Char → Bool
  | [letter, mark] => letter.isAlpha && (mark == ':' || mark == '|')
  | _ => false

/-- A path as far as it has been walked. -/
structure Walk where
  done : List (List Char) := []
  /-- Whether a segment of its own has named the drive. -/
  onDrive : Bool := false

namespace Walk

def up (w : Walk) : Walk :=
  match w.done with
  | [] => w
  | s :: rest => if isDrive s then w else { w with done := rest }

def push (s : List Char) (w : Walk) : Walk :=
  { w with done := s :: w.done }

/-- The first segment of a file's path. A drive is cut off from what follows its colon. -/
def first (s : List Char) : Walk :=
  match s with
  | letter :: ':' :: c :: rest =>
    if letter.isAlpha then { done := [c :: rest, [letter, ':']] } else { done := [s] }
  | letter :: _ =>
    if isDrive s then { done := [[letter, ':']], onDrive := true } else { done := [s] }
  | [] => { done := [s] }

def enter (kind : SchemeKind) (s : List Char) (w : Walk) : Walk :=
  if kind == .file && w.done.isEmpty then first s else w.push s

/-- The walk along further segments. A dot segment at the end leaves an empty one. -/
def along (kind : SchemeKind) : Walk → List (List Char) → Walk
  | w, [] => w
  | w, s :: rest =>
    let isDot := isParent s || isSelf s
    let w := if isParent s then w.up else if isSelf s then w else w.enter kind s
    if rest.isEmpty && isDot then w.push [] else along kind w rest

/-- The path that has been walked. A file's path has nothing empty in front. -/
def path (kind : SchemeKind) (w : Walk) : String :=
  let segments := w.done.reverse
  let segments := if kind == .file then segments.dropWhile (·.isEmpty) else segments
  "/" ++ "/".intercalate (segments.map String.ofList)

end Walk

def walk (kind : SchemeKind) (cs : List Char) : Walk :=
  let cs := cs.map fun c => if kind.isSlash c then '/' else c
  Walk.along kind {} (Text.splitChars '/' (if cs.head? == some '/' then cs.tail else cs))

def resolvedPath (kind : SchemeKind) (cs : List Char) : String :=
  (walk kind cs).path kind

end BoundSql.Url
