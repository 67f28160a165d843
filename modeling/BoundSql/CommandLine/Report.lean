import BoundSql.CommandLine.Run

/-! # Reports

What a run writes for people: a line for each record of its log, details only on request, and at the
end the failure with its causes.
-/

namespace BoundSql.CommandLine

namespace Failure

/-- A text with `first` in front of its first line and `further` in front of the others. -/
def indented (first further text : String) : String :=
  first ++ ("\n" ++ further).intercalate (Text.split '\n' text)

/-- The mark of a cause by its place. -/
def numbered (position : Nat) (cause : Cause) : String :=
  let digits := toString position
  let mark := String.ofList (List.replicate (5 - digits.length) ' ') ++ digits ++ ": "
  indented mark "       " cause.message

/-- The causes, one below the other; several of them are numbered. -/
def causeLines : List Cause → List String
  | [] => []
  | [cause] => [indented "    " "    " cause.message]
  | causes => (causes.zipIdx).map fun (cause, position) => numbered position cause

def report (failure : Failure) : String :=
  let head := "Error: " ++ failure.outermost.message
  match causeLines failure.causes with
  | [] => head ++ "\n"
  | lines => head ++ "\n\nCaused by:\n" ++ "\n".intercalate lines ++ "\n"

end Failure

namespace Run

def failure? (r : Run) : Option Failure :=
  match r.ending with
  | .failed failure => some failure
  | _ => none

def report (r : Run) (verbose : Bool) : String :=
  let records := r.log.filter fun record => verbose || record.level == .info
  String.join (records.map fun record => record.line ++ "\n") ++
    (r.failure?.map Failure.report).getD ""

def status (r : Run) : Nat :=
  if r.failure?.isSome then 1 else 0

end Run

def UsageError.status (e : UsageError) : Nat :=
  if e.isRequest then 0 else 2

end BoundSql.CommandLine
