import BoundSql.Proofs.Session.Conversation

/-! # Executions

A call changes nothing of a session but its server. So an execution that fails leaves the staged
statement and the log as they were, and one that succeeds has logged what was staged and cleared it.
-/

namespace BoundSql.Session

variable {σ α β : Type}

def OnServer (x : Attempt (Session σ) α) : Prop :=
  ∀ s, ∃ server, (x.run s).2 = { s with server }

namespace OnServer

variable {x : Attempt (Session σ) α}

theorem pure (a : α) : OnServer (σ := σ) (Pure.pure a) :=
  fun s => ⟨s.server, rfl⟩

theorem bind (hx : OnServer x) {k : α → Attempt (Session σ) β} (hk : ∀ a, OnServer (k a)) :
    OnServer (x >>= k) := by
  intro s
  obtain ⟨server, h⟩ := hx s
  rw [Attempt.run_bind]
  rcases hr : x.run s with ⟨e | a, s'⟩
  · rw [hr] at h
    exact ⟨server, h⟩
  · rw [hr] at h
    obtain rfl : s' = { s with server } := h
    exact hk a _

end OnServer

variable (b : Backend σ)

theorem onServer_perform (c : Call) : OnServer (perform b c) := by
  intro s
  rw [run_perform]
  exact ⟨_, rfl⟩

theorem onServer_act (c : Call) : OnServer (act b c) :=
  (onServer_perform b c).bind fun _ => .pure _

theorem onServer_performAll (calls : List Call) : OnServer (performAll b calls) := by
  induction calls with
  | nil => exact .pure []
  | cons c cs ih => exact (onServer_perform b c).bind fun _ => ih.bind fun _ => .pure _

theorem onServer_converse (st : Statement) (owns : Bool) : OnServer (converse b st owns) := by
  rw [← Bool.not_not owns, converse_eq]
  exact onServer_performAll b _

theorem abandon_onServer (s : Session σ) :
    ∃ server, (abandon b).run s = (.ok ⟨⟩, { s with server }) := by
  rw [abandon, Attempt.run_bind]
  change ∃ server, (Attempt.run (if isOpen b s then _ else _) s) = _
  split
  · rw [Attempt.run_tryCatch, rollback, act, Attempt.run_bind, run_perform]
    rcases b.call .rollback s.server with ⟨reason | reply, server⟩ <;> exact ⟨server, rfl⟩
  · exact ⟨s.server, rfl⟩

theorem onServer_describe (table : String) : OnServer (describe b table) :=
  (onServer_perform b _).bind fun _ => .pure _

theorem eq_of_staged? {s : Session σ} {st : Statement} (h : s.staged? = some st) :
    s.query = some st.sql ∧ st.binds = s.binds := by
  unfold staged? at h
  split at h
  next sql hsql =>
    split at h
    · cases h
    · cases h
      exact ⟨hsql, rfl⟩
  next => cases h

inductive Executed (s : Session σ) : Except Error (List Row) → Session σ → Prop
  | done {sql : String} (h : s.query = some sql) (rows : List Row) (server : σ) :
    Executed s (.ok rows) (finish (Statement.render ⟨sql, s.binds⟩) { s with server })
  | failed (e : Error) (server : σ) : Executed s (.error e) { s with server }

theorem executed_execute (s : Session σ) :
    Executed s ((execute b).run s).1 ((execute b).run s).2 := by
  cases hst : s.staged? with
  | none =>
    rw [run_execute_of_none hst]
    exact .failed .nothingStaged s.server
  | some st =>
    obtain ⟨hsql, hbinds⟩ := eq_of_staged? hst
    obtain ⟨server, h⟩ := onServer_converse b st (!isOpen b s) s
    rw [execute, Attempt.run_bind, Attempt.run_get]
    simp only [hst, Attempt.run_tryCatch, Attempt.run_bind]
    rcases hr : (converse b st (!isOpen b s)).run s with ⟨e | rows, s'⟩
    · rw [hr] at h
      obtain rfl : s' = { s with server } := h
      obtain ⟨server', habandon⟩ := abandon_onServer b { s with server }
      simp only [habandon]
      exact .failed e server'
    · rw [hr] at h
      obtain rfl : s' = { s with server } := h
      have hdone := Executed.done hsql rows server
      rwa [← hbinds] at hdone

/-- Runs statements after others that gave some rows. -/
def runAfter (rows : List Row) (statements : List Statement) : Attempt (Session σ) (List Row) :=
  statements.foldlM (fun _ st => do
    modify (stage st)
    execute b) rows

theorem runAll_eq (statements : List Statement) : runAll b statements = runAfter b [] statements :=
  rfl

theorem run_runAfter_cons (rows : List Row) (st : Statement) (rest : List Statement)
    (s : Session σ) :
    (runAfter b rows (st :: rest)).run s = match (execute b).run (stage st s) with
      | (.ok rows, s) => (runAfter b rows rest).run s
      | (.error e, s) => (.error e, s) := by
  rw [runAfter, List.foldlM_cons, Attempt.run_bind, Attempt.run_bind, Attempt.run_modify]
  rcases hr : (execute b).run (stage st s) with ⟨e | rows, s'⟩ <;>
    simp only [hr, runAfter]

end BoundSql.Session
