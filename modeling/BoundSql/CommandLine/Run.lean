import BoundSql.CommandLine.Invocation
import BoundSql.Connection.Target
import BoundSql.Log
import BoundSql.Query.Build
import BoundSql.Query.Document
import BoundSql.Table.Document

/-! # Running an invocation

A run reads the descriptor of its task first. It prints one line for each statement and finishes, or
it goes on to open a connection.
-/

namespace BoundSql.CommandLine

/-- Files by their paths: the bytes of a file, or why it cannot be read. -/
abbrev Files := String → Except String (List UInt8)

/-- A link in the chain of causes of a failure. -/
inductive Cause where
  | text (message : String)
  | statement (e : Error)
  | document (fault : Json.Fault) (location : Option Json.Location)
  deriving DecidableEq, Repr

def Cause.message : Cause → String
  | text message => message
  | statement e => e.message
  | document fault none => fault.message
  | document fault (some location) => fault.message ++ " " ++ location.message

/-- Why a run failed, with what caused it from the outside in. -/
structure Failure where
  outermost : Cause
  causes : List Cause := []
  deriving DecidableEq, Repr

/-- How a run ends. -/
inductive Ending where
  | finished
  | failed (failure : Failure)
  /-- The run goes on once a server has been asked. -/
  | connecting (config : ConnectionConfig)
  deriving DecidableEq, Repr

/-- A run: what it logs, what it has printed by its end, and how it ends. -/
structure Run where
  log : List Log.Record := []
  output : String := ""
  ending : Ending
  deriving DecidableEq, Repr

/-- Reads a file as a document. -/
def load {α : Type} (files : Files) (what path : String) (read : Json.Draft → Json.Read α) :
    Except Failure α :=
  let unreadable := fun reason =>
    Failure.mk (.text ("cannot read " ++ what ++ " " ++ path)) [.text reason]
  match files path with
  | .error reason => .error (unreadable reason)
  | .ok bytes =>
    match Text.Utf8.strict bytes with
    | .error _ => .error (unreadable "stream did not contain valid UTF-8")
    | .ok text =>
      match (Json.Document.ofString text).read read with
      | .ok a => .ok a
      | .error refusal =>
        .error ⟨.text ("invalid " ++ what ++ " " ++ path),
          [.document refusal.fault (refusal.location? bytes)]⟩

def loadQuery (files : Files) (path : String) : Except Failure Query :=
  load files "resource descriptor" path Query.read

def loadTable (files : Files) (path : String) : Except Failure Table :=
  load files "table descriptor" path Table.read

/-- The settings of an invocation: those of its file, or the defaults, with the overrides. -/
def Invocation.loadConfig (i : Invocation) (files : Files) : Except Failure ConnectionConfig := do
  let config ← match i.config with
    | some path => load files "connection config" path ConnectionConfig.read
    | none => pure {}
  pure (i.overrides.apply config)

/-- The lines that a dry run prints. -/
def printed (statements : List Statement) : String :=
  String.join (statements.map fun st => st.toJson.render ++ "\n")

def connectionFailure (config : ConnectionConfig) (e : ConnectionError) : Failure :=
  ⟨.text ("cannot connect to " ++ config.address), e.chain.map .text⟩

def Invocation.connect (i : Invocation) (files : Files) : Ending :=
  match i.loadConfig files with
  | .error failure => .failed failure
  | .ok config =>
    match (Target.ofConfig config).fault? {} config.timeoutSecs.toNat with
    | some e => .failed (connectionFailure config e)
    | none => .connecting config

/-- What is logged of a table that has been generated: its last statement creates it. -/
def tableGenerated (t : Table) (statements : List Statement) : List Log.Record :=
  (statements.getLast?.map fun st => Log.Record.tableGenerated t.name st.sql).toList

namespace Invocation

def runSelect (i : Invocation) (files : Files) (resource : String) (delete execute : Bool) : Run :=
  match loadQuery files resource with
  | .error failure => { ending := .failed failure }
  | .ok q =>
    match q.build delete with
    | .error e => { ending := .failed ⟨.statement e, []⟩ }
    | .ok st =>
      if execute then { log := [.statementBuilt st], ending := i.connect files }
      else { log := [.statementBuilt st], output := printed [st], ending := .finished }

def runCreate (i : Invocation) (files : Files) (table : String) (mode : Schema.CreateMode)
    (dryRun : Bool) : Run :=
  match loadTable files table with
  | .error failure => { ending := .failed failure }
  | .ok t =>
    if dryRun then
      match Schema.create t mode with
      | .error e => { log := [.dryRun], ending := .failed ⟨.statement e, []⟩ }
      | .ok (statements, _) =>
        { log := .dryRun :: tableGenerated t statements
          output := printed statements
          ending := .finished }
    else { ending := i.connect files }

/-- Runs a change of a table, which needs the columns that the server has even to be printed. -/
def runChange (i : Invocation) (files : Files) (table : String) : Run :=
  match loadTable files table with
  | .error failure => { ending := .failed failure }
  | .ok _ => { ending := i.connect files }

def run (i : Invocation) (files : Files) : Run :=
  match i.task with
  | .select resource delete execute => i.runSelect files resource delete execute
  | .create table ifNotExists dropIfExists dryRun =>
    i.runCreate files table (createMode ifNotExists dropIfExists) dryRun
  | .alter table _ => i.runChange files table
  | .index table _ _ _ _ => i.runChange files table
  | .describe _ => { ending := i.connect files }

end Invocation

end BoundSql.CommandLine
