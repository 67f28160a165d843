import BoundSql.Proofs.Session.Execution
import BoundSql.Proofs.Session.Transaction

/-! # Rollbacks

An execution that fails rolls back the transaction that is open by then, whoever has begun it. So on
a backend whose rollbacks succeed no transaction is open once statements have failed, and statements
that run in an open transaction leave it open if they succeed.
-/

namespace BoundSql

variable {σ α β : Type}

/-- A backend on which a rollback succeeds and leaves no transaction open, while it is in the states
`I`, which no call leaves. -/
structure Backend.RollsBack (b : Backend σ) (I : σ → Prop) : Prop where
  stays : ∀ c s, I s → I (b.call c s).2
  succeeds : ∀ s, I s → (b.call .rollback s).1.isOk
  closes : ∀ s, I s → b.inTransaction (b.call .rollback s).2 = false

theorem Scripted.backend_rollsBack : backend.RollsBack Scripted.RollsBack where
  stays := transactional_rollsBack.stays
  succeeds _ := isOk_rollback
  closes s hs := by
    have hopen := transactional_rollsBack.agrees .rollback s hs
    have hok := isOk_rollback hs
    rcases hcall : backend.call .rollback s with ⟨reason | reply, s'⟩
    · rw [hcall] at hok
      cases hok
    · rw [hcall] at hopen
      exact hopen

/-- Exchanges that end with a rollback, the first among them to close a transaction. -/
def RolledBack (xs : List Exchange) : Prop :=
  ∃ before undone, xs = before ++ [undone] ∧ undone.Undoes ∧ ∀ x ∈ before, ¬ x.Closes

/-- What an attempt in a transaction exchanges: it leaves the transaction open if it succeeds, and
rolls it back if it fails. -/
def Spares (result : Except Error α) (xs : List Exchange) : Prop :=
  match result with
  | .ok _ => ∀ x ∈ xs, ¬ x.Closes
  | .error _ => RolledBack xs

section

variable {xs ys : List Exchange}

theorem openAfter_of_not_closes (h : ∀ x ∈ xs, ¬ x.Closes) : openAfter true xs = true := by
  induction xs with
  | nil => rfl
  | cons x xs ih =>
    rw [List.forall_mem_cons] at h
    have hx : x.openAfter true = true := by
      rcases x with ⟨c, reason | reply⟩
      · cases c <;> rfl
      · cases c with
        | commit => exact absurd ⟨.inl rfl, rfl⟩ h.1
        | rollback => exact absurd ⟨.inr rfl, rfl⟩ h.1
        | _ => rfl
    rw [openAfter_cons, hx, ih h.2]

theorem Spares.rolledBack {result : Except Error α} (h : Spares result xs)
    (hfails : ¬ result.isOk) : RolledBack xs := by
  cases result with
  | ok a => exact absurd rfl hfails
  | error e => exact h

theorem Spares.append {result : Except Error α} (h : ∀ x ∈ xs, ¬ x.Closes)
    (k : Spares result ys) : Spares result (xs ++ ys) := by
  cases result with
  | ok a => exact List.forall_mem_append.mpr ⟨h, k⟩
  | error e =>
    obtain ⟨before, undone, rfl, hundone, hbefore⟩ := k
    refine ⟨xs ++ before, undone, (List.append_assoc ..).symm, hundone, ?_⟩
    exact List.forall_mem_append.mpr ⟨h, hbefore⟩

end

namespace Session

theorem staged?_eq_some {s : Session σ} {sql : String} (hsql : s.query = some sql)
    (hblank : ¬ Text.blank sql) : s.staged? = some ⟨sql, s.binds⟩ := by
  unfold staged?
  rw [hsql]
  exact if_neg hblank

theorem staged?_eq_none {s : Session σ} (h : ∀ sql ∈ s.query, Text.blank sql) :
    s.staged? = none := by
  unfold staged?
  split
  next sql hsql => exact if_pos (h sql hsql)
  next => rfl

section

variable {b : Backend σ} {I : σ → Prop}

/-- An attempt that leaves the server in the states that it is to be in. -/
def Keeps (I : σ → Prop) (x : Attempt (Session σ) α) : Prop :=
  ∀ s, I s.server → I (x.run s).2.server

/-- What an attempt leaves behind: a server in the states that it is to be in, and no transaction
open if it has failed. -/
def Leaves (b : Backend σ) (I : σ → Prop) (run : Except Error α × Session σ) : Prop :=
  I run.2.server ∧ (¬ run.1.isOk → isOpen b run.2 = false)

namespace Keeps

theorem pure (a : α) : Keeps I (Pure.pure a) :=
  fun _ hs => hs

theorem ofExcept (r : Except Error α) :
    Keeps I (MonadExcept.ofExcept r : Attempt (Session σ) α) := by
  intro s hs
  rwa [Attempt.run_ofExcept]

theorem bind {x : Attempt (Session σ) α} (hx : Keeps I x) {k : α → Attempt (Session σ) β}
    (hk : ∀ a, Keeps I (k a)) : Keeps I (x >>= k) := by
  intro s hs
  have h := hx s hs
  rw [Attempt.run_bind]
  rcases hr : x.run s with ⟨e | a, s'⟩
  · rwa [hr] at h
  · rw [hr] at h
    exact hk a s' h

end Keeps

variable (hb : b.RollsBack I)

include hb

theorem keeps_perform (c : Call) : Keeps I (perform b c) := by
  intro s hs
  rw [run_perform]
  exact hb.stays c s.server hs

theorem keeps_performAll (calls : List Call) : Keeps I (performAll b calls) := by
  induction calls with
  | nil => exact .pure []
  | cons c cs ih => exact (keeps_perform hb c).bind fun _ => ih.bind fun _ => .pure _

theorem keeps_converse (st : Statement) (owns : Bool) : Keeps I (converse b st owns) := by
  rw [← Bool.not_not owns, converse_eq]
  exact keeps_performAll hb _

theorem closed_abandon {s : Session σ} (hs : I s.server) :
    I ((abandon b).run s).2.server ∧ isOpen b ((abandon b).run s).2 = false := by
  have hrun : (abandon b).run s =
      Attempt.run (if isOpen b s then tryCatch (rollback b) fun _ => pure ⟨⟩ else pure ⟨⟩) s := by
    rw [abandon, Attempt.run_bind, Attempt.run_get]
  rw [hrun]
  split
  next =>
    have hserver : ((tryCatch (rollback b) fun _ => pure ⟨⟩).run s).2 =
        { s with server := (b.call .rollback s.server).2 } := by
      rw [Attempt.run_tryCatch, rollback, act, Attempt.run_bind, run_perform]
      rcases b.call .rollback s.server with ⟨reason | reply, server⟩ <;> rfl
    rw [hserver]
    exact ⟨hb.stays .rollback _ hs, hb.closes _ hs⟩
  next hclosed => exact ⟨hs, (Bool.not_eq_true _).mp hclosed⟩

theorem leaves_execute {s : Session σ} (hs : I s.server) {st : Statement}
    (hst : s.staged? = some st) : Leaves b I ((execute b).run s) := by
  have hkeeps := keeps_converse hb st (!isOpen b s) s hs
  rw [execute, Attempt.run_bind, Attempt.run_get]
  simp only [hst, Attempt.run_tryCatch, Attempt.run_bind]
  rcases hr : (converse b st (!isOpen b s)).run s with ⟨e | rows, s'⟩
  · rw [hr] at hkeeps
    have habandon := closed_abandon hb hkeeps
    obtain ⟨server, ha⟩ := abandon_onServer b s'
    rw [ha] at habandon
    simp only [ha]
    exact ⟨habandon.1, fun _ => habandon.2⟩
  · rw [hr] at hkeeps
    exact ⟨hkeeps, fun hfails => absurd rfl hfails⟩

theorem leaves_runAfter (rows : List Row) {statements : List Statement}
    (hshown : ∀ st ∈ statements, ¬ Text.blank st.sql) {s : Session σ} (hs : I s.server) :
    Leaves b I ((runAfter b rows statements).run s) := by
  induction statements generalizing rows s with
  | nil => exact ⟨hs, fun hfails => absurd rfl hfails⟩
  | cons st rest ih =>
    rw [List.forall_mem_cons] at hshown
    have hexecute := leaves_execute hb (s := stage st s) hs (staged?_eq_some rfl hshown.1)
    rw [run_runAfter_cons]
    rcases hr : (execute b).run (stage st s) with ⟨e | rows', s'⟩
    · rw [hr] at hexecute
      exact ⟨hexecute.1, fun _ => hexecute.2 nofun⟩
    · rw [hr] at hexecute
      exact ih rows' hshown.2 hexecute.1

end

section

variable {b : Backend σ} {I : σ → Prop} (hb : b.Transactional I) (hr : b.RollsBack I)

include hb hr

theorem spares_execute {s : Session (Recorded σ)} (hs : I s.server.state)
    (hopen : b.inTransaction s.server.state) {st : Statement} (hst : s.staged? = some st) :
    ∃ xs, s.server.Extends b I xs ((execute b.recorded).run s).2.server ∧
      Spares ((execute b.recorded).run s).1 xs := by
  obtain ⟨xs, r, hext, hserver, hconv⟩ := run_execute hb hs hst
  rw [hserver]
  refine ⟨xs, hext, ?_⟩
  rw [hopen] at hconv
  generalize ((execute b.recorded).run s).1 = result at hconv
  cases hconv with
  | complete h =>
    exact fun x hx => Exchange.not_closes_of_ofStatement (ofStatement_course h x hx)
  | broken h hc =>
    rw [openAfter_of_ofStatement (ofStatement_course h)] at hc
    cases hc
  | @abandoned xs e h ho answer =>
    obtain ⟨u, hu, rfl : answer = (b.call .rollback u).1⟩ :=
      hext.answers ⟨.rollback, answer⟩ (by simp)
    refine ⟨xs, _, rfl, ⟨rfl, hr.succeeds u hu⟩, fun x hx => ?_⟩
    exact Exchange.not_closes_of_ofStatement (ofStatement_course h x hx)

theorem spares_runAfter (rows : List Row) {statements : List Statement}
    (hshown : ∀ st ∈ statements, ¬ Text.blank st.sql) {s : Session (Recorded σ)}
    (hs : I s.server.state) (hopen : b.inTransaction s.server.state) :
    ∃ xs, s.server.Extends b I xs ((runAfter b.recorded rows statements).run s).2.server ∧
      Spares ((runAfter b.recorded rows statements).run s).1 xs := by
  induction statements generalizing rows s with
  | nil => exact ⟨[], .refl hs, by simp [Spares, runAfter]⟩
  | cons st rest ih =>
    rw [List.forall_mem_cons] at hshown
    obtain ⟨xs, hext, hxs⟩ :=
      spares_execute hb hr (s := stage st s) hs hopen (staged?_eq_some rfl hshown.1)
    rw [run_runAfter_cons]
    rcases hrun : (execute b.recorded).run (stage st s) with ⟨e | rows', s'⟩
    · rw [hrun] at hext hxs
      exact ⟨xs, hext, hxs⟩
    · rw [hrun] at hext hxs
      have hopen' : b.inTransaction s'.server.state := by
        rw [hext.agrees]
        exact hopen.symm ▸ openAfter_of_not_closes hxs
      obtain ⟨ys, hext', hys⟩ := ih rows' hshown.2 hext.state hopen'
      exact ⟨xs ++ ys, hext.trans hext', .append hxs hys⟩

end

end Session

end BoundSql
