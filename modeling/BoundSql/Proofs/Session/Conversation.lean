import BoundSql.Proofs.Session.Ledger

/-! # Conversations

Running the staged statement is a conversation with the server: the calls of the script up to the
first that fails, and after a failure one rollback if a transaction is open by then. The result is
what was fetched, or the error of the call that failed, whatever becomes of the rollback.
-/

namespace BoundSql

def Exchange.rows : Exchange → List Row
  | ⟨.fetch, .ok reply⟩ => reply.rows?
  | _ => []

def fetched (xs : List Exchange) : List Row :=
  xs.flatMap Exchange.rows

theorem fetched_cons (c : Call) (reply : Reply) (xs : List Exchange) :
    fetched (⟨c, .ok reply⟩ :: xs) = Session.rowsOf c reply ++ fetched xs := by
  cases c <;> rfl

/-- The exchanges of some calls, made in order up to the first that fails, and the error of that
one. -/
inductive Course : List Call → List Exchange → Option Error → Prop
  | nil : Course [] [] none
  | cons {cs : List Call} {xs : List Exchange} {e : Option Error} (c : Call) (reply : Reply)
    (h : Course cs xs e) : Course (c :: cs) (⟨c, .ok reply⟩ :: xs) e
  | cut (c : Call) (cs : List Call) (reason : String) :
    Course (c :: cs) [⟨c, .error reason⟩] (some (.backend c.stage reason))

/-- The exchanges of a conversation and its result: a failure is followed by one rollback, with any
answer, if and only if a transaction is open at that moment. -/
inductive Conversation (calls : List Call) (wasOpen : Bool) :
    List Exchange → Except Error (List Row) → Prop
  | complete {xs : List Exchange} (h : Course calls xs none) :
    Conversation calls wasOpen xs (.ok (fetched xs))
  | broken {xs : List Exchange} {e : Error} (h : Course calls xs (some e))
    (hc : openAfter wasOpen xs = false) : Conversation calls wasOpen xs (.error e)
  | abandoned {xs : List Exchange} {e : Error} (h : Course calls xs (some e))
    (ho : openAfter wasOpen xs = true) (answer : Except String Reply) :
    Conversation calls wasOpen (xs ++ [⟨.rollback, answer⟩]) (.error e)

namespace Session

variable {σ : Type} {b : Backend σ} {I : σ → Prop}

theorem run_performAll (calls : List Call) (s : Session (Recorded σ)) :
    ∃ xs e r, Course calls xs e ∧ s.server.Advances b xs r ∧
      (performAll b.recorded calls).run s =
        (e.elim (.ok (fetched xs)) .error, { s with server := r }) := by
  induction calls generalizing s with
  | nil => exact ⟨[], none, s.server, .nil, .refl b s.server, rfl⟩
  | cons c cs ih =>
    have hx := Recorded.Advances.call b s.server c
    rw [performAll, Attempt.run_bind, run_perform]
    rcases hc : b.recorded.call c s.server with ⟨reason | reply, r⟩
    · rw [hc] at hx
      exact ⟨_, _, r, .cut c cs reason, hx, rfl⟩
    · rw [hc] at hx
      obtain ⟨xs, e, r', hcourse, hadv, hrun⟩ := ih { s with server := r }
      refine ⟨_, e, r', .cons c reply hcourse, hx.trans hadv, ?_⟩
      simp only [Except.mapError, Attempt.run_bind, hrun]
      cases e with
      | none => rw [fetched_cons]; rfl
      | some e => rfl

theorem run_abandon (s : Session (Recorded σ)) :
    ∃ xs r, s.server.Advances b xs r ∧
      (abandon b.recorded).run s = (.ok ⟨⟩, { s with server := r }) ∧
      if b.inTransaction s.server.state then ∃ answer, xs = [⟨.rollback, answer⟩] else xs = [] := by
  have hrun : (abandon b.recorded).run s = Attempt.run
      (if b.inTransaction s.server.state then
        tryCatch (rollback b.recorded) fun _ => pure ⟨⟩ else pure ⟨⟩) s := by
    rw [abandon, Attempt.run_bind]
    rfl
  rw [hrun]
  split
  · refine ⟨_, _, .call b s.server .rollback, ?_, ⟨_, rfl⟩⟩
    rw [Attempt.run_tryCatch, rollback, act, Attempt.run_bind, run_perform]
    rcases b.recorded.call .rollback s.server with ⟨reason | reply, r⟩ <;> rfl
  · exact ⟨[], _, .refl b s.server, rfl, rfl⟩

theorem run_execute_of_none {s : Session σ} (h : s.staged? = none) :
    (execute b).run s = (.error .nothingStaged, s) := by
  rw [execute, Attempt.run_bind, Attempt.run_get]
  simp only [h]
  rfl

theorem run_execute_of_some {s : Session (Recorded σ)} {st : Statement}
    (hst : s.staged? = some st) :
    ∃ xs e r ys r', Course (script st (b.inTransaction s.server.state)) xs e ∧
      s.server.Advances b xs r ∧ r.Advances b ys r' ∧
      ((execute b.recorded).run s).1 = e.elim (.ok (fetched xs)) .error ∧
      ((execute b.recorded).run s).2.server = r' ∧
      if e.isSome ∧ b.inTransaction r.state then ∃ answer, ys = [⟨.rollback, answer⟩]
      else ys = [] := by
  have howns : isOpen b.recorded s = b.inTransaction s.server.state := rfl
  rw [execute, Attempt.run_bind, Attempt.run_get]
  simp only [hst, howns, converse_eq]
  obtain ⟨xs, e, r, hcourse, hadv, hrun⟩ :=
    run_performAll (b := b) (script st (b.inTransaction s.server.state)) s
  rw [Attempt.run_tryCatch, Attempt.run_bind, hrun]
  cases e with
  | none => exact ⟨xs, none, r, [], r, hcourse, hadv, .refl b r, rfl, rfl, by simp⟩
  | some e =>
    obtain ⟨ys, r', hadv', habandon, hys⟩ := run_abandon (b := b) { s with server := r }
    simp only [Option.elim, Attempt.run_bind, habandon]
    exact ⟨xs, some e, r, ys, r', hcourse, hadv, hadv', rfl, rfl, by simpa using hys⟩

theorem run_execute (hb : b.Transactional I) {s : Session (Recorded σ)} (hs : I s.server.state)
    {st : Statement} (hst : s.staged? = some st) :
    ∃ xs r, s.server.Extends b I xs r ∧ ((execute b.recorded).run s).2.server = r ∧
      Conversation (script st (b.inTransaction s.server.state)) (b.inTransaction s.server.state) xs
        ((execute b.recorded).run s).1 := by
  obtain ⟨xs, e, r, ys, r', hcourse, hadv, hadv', hresult, hserver, hys⟩ :=
    run_execute_of_some (b := b) hst
  have hext := hadv.agrees hb hs
  refine ⟨xs ++ ys, r', hext.trans (hadv'.agrees hb hext.state), hserver, ?_⟩
  rw [hresult]
  cases e with
  | none =>
    obtain rfl : ys = [] := by simpa using hys
    rw [List.append_nil]
    exact .complete hcourse
  | some e =>
    simp only [Option.isSome_some, true_and, hext.agrees] at hys
    split at hys
    next ho =>
      obtain ⟨answer, rfl⟩ := hys
      exact .abandoned hcourse ho answer
    next hc =>
      obtain rfl := hys
      rw [List.append_nil]
      exact .broken hcourse ((Bool.not_eq_true _).mp hc)

/-- What a session asks of its server to run the staged statement, and what comes of it. Without a
statement, or with a blank one, it asks nothing. -/
theorem execute_conversation (hb : b.Transactional I) {s : Session σ} (hs : I s.server) :
    let run := (execute b.recorded).run s.recorded
    (execute b).run s = (run.1, run.2.plain) ∧
      ((∀ sql ∈ s.query, Text.blank sql) → run = (.error .nothingStaged, s.recorded)) ∧
      ∀ sql ∈ s.query, ¬ Text.blank sql →
        Conversation (script ⟨sql, s.binds⟩ (isOpen b s)) (isOpen b s) run.2.server.exchanges
          run.1 := by
  refine ⟨mirrors_execute b s.recorded, fun hblank => ?_, fun sql hsql hblank => ?_⟩
  · have hst : s.recorded.staged? = none := by
      unfold staged?
      split
      next sql hsql => exact if_pos (hblank sql hsql)
      next => rfl
    exact run_execute_of_none hst
  · have hst : s.recorded.staged? = some ⟨sql, s.binds⟩ := by
      unfold staged?
      rw [show s.recorded.query = some sql from hsql]
      exact if_neg hblank
    obtain ⟨xs, r, hext, hserver, hconv⟩ := run_execute hb (s := s.recorded) hs hst
    rwa [hserver, hext.exchanges]

/-- A commit that fails, and a rollback that fails on top. -/
theorem execute_conversation_of_failing_commit :
    let s : Session Scripted :=
      { server := { failures := [(.commit, 0), (.rollback, 0)] }
        query := some " SELECT ?"
        binds := [.null] }
    let run := (execute Scripted.backend.recorded).run s.recorded
    run.2.server.exchanges.map (·.call) =
        [.begin, .prepare " SELECT ?", .bind 1 .null, .execute, .fetch, .commit, .rollback] ∧
      run.1 = .error (.backend .commit "injected failure at commit") ∧
      Conversation (script ⟨" SELECT ?", [.null]⟩ false) false run.2.server.exchanges run.1 := by
  intro s run
  refine ⟨by decide +kernel, by decide +kernel, ?_⟩
  have hblank : ¬ Text.blank " SELECT ?" := by decide
  have h := execute_conversation Scripted.transactional (s := s) rfl
  unfold run
  exact h.2.2 " SELECT ?" rfl hblank

end Session

end BoundSql
