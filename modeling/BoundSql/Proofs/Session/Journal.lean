import BoundSql.Proofs.Session.Execution
import BoundSql.Proofs.Session.Run
import BoundSql.Proofs.Session.ShortForm

/-! # The journal of a run

A command on a table comes down to plain commands: one that looks at the table, then one to stage
and one to execute each statement. So a whole run comes down to steps of plain commands, and its
log can be read off them: it has one entry for each execution that succeeds, and no other.
-/

namespace BoundSql

def Command.isExecute : Command → Bool
  | execute => true
  | _ => false

def Command.isBuild : Command → Bool
  | build _ _ => true
  | _ => false

structure Step (σ : Type) where
  before : Session σ
  command : Command
  result : Except Error Outcome
  after : Session σ

namespace Step

variable {σ : Type}

def executed (x : Step σ) : Bool :=
  x.command.isExecute && x.result.isOk

/-- What a step does to the staged statement and to the log. An execution that succeeds leaves
nothing staged, and a new entry; an execution or a build that fails leaves what is staged. -/
structure Tidy (x : Step σ) : Prop where
  log : x.after.log.map some =
    x.before.log.map some ++ if x.executed then [x.before.rendered] else []
  cleared : x.executed → x.after.query = none ∧ (Bindings.mk x.after.binds).nextPosition = 1
  kept : x.command.isExecute ∨ x.command.isBuild → x.result.isOk = false →
    x.after.query = x.before.query ∧ x.after.binds = x.before.binds

end Step

namespace Session

variable {σ α : Type} (b : Backend σ)

def step (s : Session σ) (c : Command) : Step σ :=
  ⟨s, c, (run b s c).1, (run b s c).2⟩

def steps : Session σ → List Command → List (Step σ)
  | _, [] => []
  | s, c :: cs => step b s c :: steps (run b s c).2 cs

variable {b}

theorem tidy_step_execute (s : Session σ) : (step b s .execute).Tidy := by
  have hrun : run b s .execute = ((execute b).run s).map (Except.map Outcome.rows) id := by
    rw [run, carryOut, Attempt.run_map]
    rcases (execute b).run s with ⟨_ | _, _⟩ <;> rfl
  have h := executed_execute b s
  rw [step, hrun]
  generalize ((execute b).run s) = r at h
  rcases r with ⟨result, s'⟩
  cases h with
  | done hsql rows server =>
    refine ⟨?_, fun _ => ⟨rfl, rfl⟩, fun _ hfail => (by cases hfail)⟩
    simp [Step.executed, Command.isExecute, rendered, hsql, Except.isOk, Except.toBool, Except.map]
  | failed e server =>
    refine ⟨?_, fun hok => (by cases hok), fun _ _ => ⟨rfl, rfl⟩⟩
    simp [Step.executed, Command.isExecute, Except.isOk, Except.toBool, Except.map]

theorem tidy_of_log {x : Step σ} (hc : x.command.isExecute = false)
    (hlog : x.after.log = x.before.log)
    (hbuild : x.command.isBuild → x.result.isOk = false →
      x.after.query = x.before.query ∧ x.after.binds = x.before.binds) : x.Tidy := by
  have hx : x.executed = false := by simp [Step.executed, hc]
  refine ⟨by simp [hlog, hx], fun h => ?_, fun h => ?_⟩
  · simp [hx] at h
  · rw [hc] at h
    exact hbuild (h.resolve_left Bool.false_ne_true)

theorem tidy_of_onServer {c : Command} (hc : c.isExecute = false) (hb : c.isBuild = false)
    (h : OnServer (carryOut b c)) (s : Session σ) : (step b s c).Tidy := by
  obtain ⟨server, hs⟩ := h s
  refine tidy_of_log hc ?_ fun hbuild => ?_
  · exact (congrArg Session.log hs :)
  · exact absurd (hb.symm.trans hbuild) Bool.false_ne_true

theorem onServer_silent {x : Attempt (Session σ) PUnit} (h : OnServer x) : OnServer (silent x) :=
  h.bind fun _ => .pure _

theorem tidy_step_build (s : Session σ) (q : Query) (delete : Bool) :
    (step b s (.build q delete)).Tidy := by
  have hrun : run b s (.build q delete) = match q.build delete with
      | .ok st => (.ok .nothing, stage st s)
      | .error e => (.error e, s) := by
    rw [run, carryOut, silent, build, Attempt.run_bind, Attempt.run_bind, Attempt.run_ofExcept]
    cases q.build delete <;> rfl
  rw [step, hrun]
  cases q.build delete with
  | ok st => exact tidy_of_log rfl rfl fun _ hfail => (by cases hfail)
  | error e => exact tidy_of_log rfl rfl fun _ _ => ⟨rfl, rfl⟩

theorem tidy_step (s : Session σ) (c : Command) : (step b s c).Tidy := by
  cases c with
  | build q delete => exact tidy_step_build s q delete
  | stage | setQuery | setBinds | clear => exact tidy_of_log rfl rfl fun hbuild => (by cases hbuild)
  | begin | commit | rollback =>
    refine tidy_of_onServer rfl rfl ?_ s
    exact onServer_silent (onServer_act b _)
  | execute => exact tidy_step_execute s
  | describe table =>
    refine tidy_of_onServer rfl rfl ?_ s
    rw [carryOut, ← bind_pure_comp]
    exact (onServer_describe b table).bind fun _ => .pure _

theorem tidy_steps (s : Session σ) (cs : List Command) : ∀ x ∈ steps b s cs, x.Tidy := by
  induction cs generalizing s with
  | nil => simp [steps]
  | cons c cs ih => exact List.forall_mem_cons.mpr ⟨tidy_step s c, ih _⟩

variable (b)

/-- The log of plain commands has an entry for each of their executions that succeeds. -/
theorem log_play (s : Session σ) (cs : List Command) :
    (play b s (cs.map .command)).log.map some =
      s.log.map some ++ ((steps b s cs).filter Step.executed).map (·.before.rendered) := by
  induction cs generalizing s with
  | nil => simp [steps, play]
  | cons c cs ih =>
    have hstep := (tidy_step (b := b) s c).log
    change (play b (run b s c).2 (cs.map .command)).log.map some = _
    rw [ih, steps, List.filter_cons]
    change (run b s c).2.log.map some = s.log.map some ++ _ at hstep
    rw [hstep, List.append_assoc]
    split <;> simp_all [step]

def runCommands : List Statement → Session σ → List Command
  | [], _ => []
  | st :: rest, s =>
    .stage st :: .execute :: match (execute b).run (stage st s) with
      | (.ok _, s) => runCommands rest s
      | (.error _, _) => []

def inspectCommands (operation : Schema.Operation) (t : Table) : List Command :=
  if operation.needsIntrospection then [.describe t.name] else []

/-- The plain commands that a move comes down to. -/
def plainCommands (s : Session σ) : Move → List Command
  | .command c => [c]
  | .onTable t c => inspectCommands c.operation t ++
    match (plan b c.operation t).run s with
      | (.ok (statements, _), s) => if c.runs then runCommands b statements s else []
      | (.error _, _) => []

def allCommands : Session σ → List Move → List Command
  | _, [] => []
  | s, m :: moves => plainCommands b s m ++ allCommands (move b s m) moves

theorem play_append (s : Session σ) (ms ns : List Move) :
    play b s (ms ++ ns) = play b (play b s ms) ns :=
  List.foldl_append

theorem play_runCommands (rows : List Row) (statements : List Statement) (s : Session σ) :
    play b s ((runCommands b statements s).map .command) =
      ((runAfter b rows statements).run s).2 := by
  induction statements generalizing rows s with
  | nil => rfl
  | cons st rest ih =>
    have hexecute : (run b (stage st s) .execute).2 = ((execute b).run (stage st s)).2 := by
      rw [run, carryOut, Attempt.run_map]
      rcases (execute b).run (stage st s) with ⟨_ | _, _⟩ <;> rfl
    rw [runCommands, run_runAfter_cons]
    change play b (run b (stage st s) .execute).2 _ = _
    rw [hexecute]
    rcases (execute b).run (stage st s) with ⟨e | rows', s'⟩
    · rfl
    · exact ih rows' s'

theorem play_inspectCommands (operation : Schema.Operation) (t : Table) (s : Session σ) :
    play b s ((inspectCommands operation t).map .command) =
      ((plan b operation t).run s).2 := by
  rw [run_plan, inspectCommands, inspect]
  split
  · change (run b s (.describe t.name)).2 = _
    rw [run, carryOut, Attempt.run_map]
    rcases (describe b t.name).run s with ⟨_ | _, _⟩ <;> rfl
  · rfl

theorem move_eq (s : Session σ) (m : Move) :
    move b s m = play b s ((plainCommands b s m).map .command) := by
  cases m with
  | command c => rfl
  | onTable t c =>
    have hinspect := play_inspectCommands b c.operation t s
    have hmove : move b s (.onTable t c) =
        if c.runs then (apply b c.operation t s).2.2 else ((plan b c.operation t).run s).2 := by
      split
      next hc => exact congrArg Prod.snd (runOn_eq_apply b t s hc).1
      next hc =>
        cases c with
        | plan operation =>
          rw [move, runOn, TableCommand.operation]
          rcases (plan b operation t).run s with ⟨_ | ⟨_, _⟩, _⟩ <;> rfl
        | _ => exact absurd rfl hc
    rw [hmove, plainCommands, List.map_append, play_append, hinspect, apply]
    rcases (plan b c.operation t).run s with ⟨e | ⟨statements, t'⟩, s'⟩
    · split <;> rfl
    · simp only []
      split
      · exact (play_runCommands b [] statements s').symm
      · rfl

theorem play_eq (s : Session σ) (moves : List Move) :
    play b s moves = play b s ((allCommands b s moves).map .command) := by
  induction moves generalizing s with
  | nil => rfl
  | cons m moves ih =>
    change play b (move b s m) moves = _
    rw [allCommands, List.map_append, play_append, ← move_eq, ih]

/-- A run comes down to steps of plain commands. Its log has grown by what was staged before each
execution that has succeeded, in order, and by nothing else; every step is tidy. -/
theorem play_journal (s : Session σ) (moves : List Move) :
    let cs := allCommands b s moves
    play b s moves = play b s (cs.map .command) ∧
      (play b s moves).log.map some =
        s.log.map some ++ ((steps b s cs).filter Step.executed).map (·.before.rendered) ∧
      ∀ x ∈ steps b s cs, x.Tidy := by
  intro cs
  have hplay := play_eq b s moves
  exact ⟨hplay, by rw [hplay]; exact log_play b s cs, tidy_steps s cs⟩

/-- A statement that fails once, is executed again, and makes room for the two of an operation. -/
theorem play_journal_of_failing_bind :
    let s : Session Scripted := { server := { failures := [(.bind, 0)] } }
    let st : Statement := ⟨"SELECT ?", [.int 1]⟩
    let t : Table := { name := "users", columns := [{ name := "id", type := some .date }] }
    let moves : List Move := [.command (.stage st), .command .execute, .command .execute,
      .onTable t (.create .dropIfExists), .command (.build (.new "") false)]
    let after := play Scripted.backend s moves
    let xs := steps Scripted.backend s (allCommands Scripted.backend s moves)
    let failed := step Scripted.backend (stage st s) .execute
    after.log = ["SELECT 1", "DROP TABLE IF EXISTS users;",
        "CREATE TABLE users (id DATE) ENGINE=InnoDB DEFAULT CHARSET=utf8;"] ∧
      after.log.map some = (xs.filter Step.executed).map (·.before.rendered) ∧
      failed ∈ xs ∧ failed.result.isOk = false ∧ failed.Tidy := by
  intro s st t moves after xs failed
  have h := play_journal Scripted.backend s moves
  have hmem : failed ∈ xs := .tail _ (.head _)
  exact ⟨by decide +kernel, h.2.1, hmem, by decide +kernel, h.2.2 failed hmem⟩

end Session

end BoundSql
