import BoundSql.CommandLine.Report
import BoundSql.Proofs.Statement.Line
import BoundSql.Schema.Operation

/-! # Dry runs

A run that needs no server prints one line for each statement of its task, from which the statement
can be read again; a run that fails prints nothing.
-/

namespace BoundSql.CommandLine

def Failure.ofError (e : Error) : Failure :=
  ⟨.statement e, []⟩

def queryStatements (files : Files) (path : String) (delete : Bool) :
    Except Failure (List Statement) := do
  let q ← loadQuery files path
  let st ← (q.build delete).mapError Failure.ofError
  pure [st]

def creationStatements (files : Files) (path : String) (mode : Schema.CreateMode) :
    Except Failure (List Statement) := do
  let t ← loadTable files path
  let (statements, _) ←
    ((Schema.Operation.createTable mode).statements t []).mapError Failure.ofError
  pure statements

/-- A run that prints the lines of some statements and succeeds, or one that fails and prints
nothing. -/
def Run.Prints (r : Run) : Except Failure (List Statement) → Prop
  | .ok statements => r.output = printed statements ∧ r.ending = .finished
  | .error failure => r.output = "" ∧ r.ending = .failed failure

/-- A text in which each statement has its line, and nothing follows the last line. -/
def Shows (text : String) (statements : List Statement) : Prop :=
  ∃ lines, Text.split '\n' text = lines ++ [""] ∧ List.Forall₂ Statement.ShownBy statements lines

theorem shows_printed {statements : List Statement}
    (h : ∀ st ∈ statements, ∀ v ∈ st.binds, ¬ v.isFloat) :
    Shows (printed statements) statements := by
  refine ⟨statements.map fun st => st.toJson.render, ?_, ?_⟩
  · have hlines : ∀ line ∈ statements.map fun st => st.toJson.render, '\n' ∉ line.toList := by
      refine List.forall_mem_map.mpr fun st hst => ?_
      exact (Statement.plain (h st hst)).newline_not_mem_render
    rw [← Text.split_join_lines hlines, List.map_map]
    rfl
  · refine List.forall₂_map_right_iff.mpr (List.forall₂_same.mpr fun st hst => ?_)
    exact Statement.shownBy_render (h st hst)

theorem prints_select (i : Invocation) (files : Files) (path : String) (delete : Bool) :
    ({ i with task := .select path delete false }.run files).Prints
      (queryStatements files path delete) := by
  simp only [Invocation.run, Invocation.runSelect, queryStatements]
  cases loadQuery files path with
  | error failure => exact ⟨rfl, rfl⟩
  | ok q =>
    simp only [bind, Except.bind]
    cases q.build delete with
    | error e => exact ⟨rfl, rfl⟩
    | ok st => exact ⟨rfl, rfl⟩

theorem prints_create (i : Invocation) (files : Files) (path : String)
    (ifNotExists dropIfExists : Bool) :
    ({ i with task := .create path ifNotExists dropIfExists true }.run files).Prints
      (creationStatements files path (createMode ifNotExists dropIfExists)) := by
  simp only [Invocation.run, Invocation.runCreate, creationStatements, Schema.Operation.statements]
  cases loadTable files path with
  | error failure => exact ⟨rfl, rfl⟩
  | ok t =>
    simp only [bind, Except.bind, if_true]
    cases Schema.create t (createMode ifNotExists dropIfExists) with
    | error e => exact ⟨rfl, rfl⟩
    | ok r => exact ⟨rfl, rfl⟩

/-- The lines that are printed for statements without doubles show these statements, one on each
line; and a run that needs no server prints the lines of all its statements, or fails and prints
nothing. -/
theorem dry_run_shows :
    (∀ statements : List Statement, (∀ st ∈ statements, ∀ v ∈ st.binds, ¬ v.isFloat) →
      Shows (printed statements) statements) ∧
    (∀ (i : Invocation) (files : Files) (path : String) (delete : Bool),
      ({ i with task := .select path delete false }.run files).Prints
        (queryStatements files path delete)) ∧
    ∀ (i : Invocation) (files : Files) (path : String) (ifNotExists dropIfExists : Bool),
      ({ i with task := .create path ifNotExists dropIfExists true }.run files).Prints
        (creationStatements files path (createMode ifNotExists dropIfExists)) :=
  ⟨fun _ => shows_printed, prints_select, prints_create⟩

/-- Statements whose texts and values break lines and close quotes. -/
theorem dry_run_shows_hostile :
    let statements : List Statement := [
      ⟨"SELECT 'a\nb' WHERE (x IN (?,?,?));",
        [.text "\"\r\n\x7d\x00\u2028é", .blob [10, 34], .null]⟩,
      ⟨"", []⟩]
    (∀ st ∈ statements, ∀ v ∈ st.binds, ¬ v.isFloat) ∧ Shows (printed statements) statements := by
  intro statements
  have h : ∀ st ∈ statements, ∀ v ∈ st.binds, ¬ v.isFloat := by decide
  exact ⟨h, dry_run_shows.1 statements h⟩

end BoundSql.CommandLine
