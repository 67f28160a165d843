import BoundSql.CommandLine.Report

/-! # The program

Reads the command line, the environment and the files, and writes what the run says. There is no
driver for a server here, so a run that needs one ends where it would ask it.
-/

namespace BoundSql

open CommandLine

def unreadable : IO.Error → String
  | .noFileOrDirectory .. => PathFault.notFound.message
  | .inappropriateType _ code _ =>
    (if code = 20 then PathFault.notDirectory else PathFault.isDirectory).message
  | .invalidArgument _ code _ =>
    (if code = 36 then PathFault.nameTooLong else PathFault.invalid).message
  | e => toString e

def readFile (path : String) : IO (Except String (List UInt8)) := do
  try
    let bytes ← IO.FS.readBinFile path
    return .ok bytes.toList
  catch e => return .error (unreadable e)

/-- The files that an invocation may read. -/
def filePaths (i : Invocation) : List String :=
  i.config.toList ++ match i.task with
    | .select resource _ _ => [resource]
    | .create table _ _ _ => [table]
    | .alter table _ => [table]
    | .index table _ _ _ _ => [table]
    | .describe _ => []

def noDriver (config : ConnectionConfig) : Failure :=
  ⟨.text ("cannot connect to " ++ config.address), [.text "no driver for this server"]⟩

def environmentNames : List String :=
  grammar.options.filterMap (·.environment)

def runProgram (args : List String) : IO UInt32 := do
  let environment ← environmentNames.filterMapM fun name => do
    return (← IO.getEnv name).map fun value => (name, value)
  match Invocation.parse (fun name => environment.lookup name) args with
  | .error e =>
    IO.eprintln e.message
    return e.status.toUInt32
  | .ok i =>
    let files ← (filePaths i).mapM fun path => do return (path, ← readFile path)
    let run := i.run fun path => (files.lookup path).getD (.error PathFault.notFound.message)
    let run := match run.ending with
      | .connecting config => { run with ending := .failed (noDriver config) }
      | _ => run
    IO.eprint (run.report i.verbose)
    IO.print run.output
    return run.status.toUInt32

end BoundSql

def main (args : List String) : IO UInt32 :=
  BoundSql.runProgram args
