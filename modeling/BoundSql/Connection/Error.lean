import BoundSql.Error

/-! # Connection errors

An error of a connection, with the errors of the driver and of the system below it.
-/

namespace BoundSql

inductive DriverError where
  | configuration (reason : String)
  | communication (reason : String)
  deriving DecidableEq, Repr

namespace DriverError

def reason : DriverError → String
  | configuration reason => reason
  | communication reason => reason

def message : DriverError → String
  | configuration reason => "error with configuration: " ++ reason
  | communication reason => "error communicating with database: " ++ reason

end DriverError

inductive ConnectionError where
  | database (cause : DriverError)
  | timeout (address : String) (seconds : Nat)
  | runtime (reason : String)
  | unboundParameter (position : Nat)
  | invalidIdentifier (name : String)
  deriving DecidableEq, Repr

namespace ConnectionError

def message : ConnectionError → String
  | database cause => "Database error: " ++ cause.message
  | timeout address seconds =>
    "Connection to " ++ address ++ " timed out after " ++ toString seconds ++ "s"
  | runtime reason => "Runtime error: " ++ reason
  | unboundParameter position => "Placeholder " ++ toString position ++ " has no bound value"
  | invalidIdentifier name => "Invalid identifier '" ++ name ++ "'"

/-- The error with the errors below it, each as its wording. -/
def chain (e : ConnectionError) : List String :=
  e.message :: match e with
    | database cause => [cause.message, cause.reason]
    | runtime reason => [reason]
    | _ => []

/-- The error of a statement that failed at a stage because of a connection error. -/
def during (stage : Stage) (e : ConnectionError) : Error :=
  .backend stage e.message

end ConnectionError

end BoundSql
