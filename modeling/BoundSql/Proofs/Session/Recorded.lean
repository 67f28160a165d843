import BoundSql.Proofs.Session.Script
import BoundSql.Session.Command

/-! # Recorded sessions

A recorded backend answers as the backend it stands for and keeps every call with its answer, in
order. No operation of a session looks at the record, so that a recorded session comes to the same
results as a plain one.
-/

namespace BoundSql

structure Exchange where
  call : Call
  answer : Except String Reply

/-- The state of a backend, with the exchanges so far. -/
structure Recorded (σ : Type) where
  state : σ
  exchanges : List Exchange

variable {σ α β : Type}

/-- The backend that keeps every exchange. -/
def Backend.recorded (b : Backend σ) : Backend (Recorded σ) where
  call c r :=
    let (answer, state) := b.call c r.state
    (answer, ⟨state, r.exchanges ++ [⟨c, answer⟩]⟩)
  inTransaction r := b.inTransaction r.state

namespace Session

def recorded (s : Session σ) : Session (Recorded σ) :=
  ⟨⟨s.server, []⟩, s.query, s.binds, s.log⟩

def plain (s : Session (Recorded σ)) : Session σ :=
  ⟨s.server.state, s.query, s.binds, s.log⟩

/-- Two attempts that come to one result, and to one session but for the record. -/
def Mirrors (x : Attempt (Session σ) α) (y : Attempt (Session (Recorded σ)) α) : Prop :=
  ∀ s, x.run s.plain = ((y.run s).1, (y.run s).2.plain)

namespace Mirrors

variable {x : Attempt (Session σ) α} {y : Attempt (Session (Recorded σ)) α}

theorem pure (a : α) : Mirrors (σ := σ) (Pure.pure a) (Pure.pure a) :=
  fun _ => rfl

theorem throw (e : Error) : Mirrors (σ := σ) (α := α) (throw e) (throw e) :=
  fun _ => rfl

theorem ofExcept (r : Except Error α) :
    Mirrors (σ := σ) (MonadExcept.ofExcept r) (MonadExcept.ofExcept r) := by
  intro s
  simp

theorem modify {f : Session σ → Session σ} {g : Session (Recorded σ) → Session (Recorded σ)}
    (h : ∀ s, f s.plain = (g s).plain) : Mirrors (modify f) (modify g) := by
  intro s
  simp [h]

theorem bind (hx : Mirrors x y) {k : α → Attempt (Session σ) β}
    {l : α → Attempt (Session (Recorded σ)) β} (hk : ∀ a, Mirrors (k a) (l a)) :
    Mirrors (x >>= k) (y >>= l) := by
  intro s
  rw [Attempt.run_bind, Attempt.run_bind, hx s]
  rcases y.run s with ⟨e | a, s'⟩
  · rfl
  · exact hk a s'

theorem map (hx : Mirrors x y) (f : α → β) : Mirrors (f <$> x) (f <$> y) := by
  rw [← bind_pure_comp, ← bind_pure_comp]
  exact hx.bind fun a => pure (f a)

theorem get_bind {k : Session σ → Attempt (Session σ) β}
    {l : Session (Recorded σ) → Attempt (Session (Recorded σ)) β}
    (h : ∀ s, Mirrors (k s.plain) (l s)) : Mirrors (get >>= k) (get >>= l) := by
  intro s
  rw [Attempt.run_bind, Attempt.run_bind]
  exact h s s

theorem tryCatch (hx : Mirrors x y) {k : Error → Attempt (Session σ) α}
    {l : Error → Attempt (Session (Recorded σ)) α} (hk : ∀ e, Mirrors (k e) (l e)) :
    Mirrors (tryCatch x k) (tryCatch y l) := by
  intro s
  rw [Attempt.run_tryCatch, Attempt.run_tryCatch, hx s]
  rcases y.run s with ⟨e | a, s'⟩
  · exact hk e s'
  · rfl

theorem foldlM {γ : Type} {k : β → γ → Attempt (Session σ) β}
    {l : β → γ → Attempt (Session (Recorded σ)) β} (h : ∀ b c, Mirrors (k b c) (l b c))
    (b : β) (cs : List γ) : Mirrors (cs.foldlM k b) (cs.foldlM l b) := by
  induction cs generalizing b with
  | nil => exact pure b
  | cons c cs ih =>
    rw [List.foldlM_cons, List.foldlM_cons]
    exact (h b c).bind ih

end Mirrors

variable (b : Backend σ)

theorem run_perform (c : Call) (s : Session σ) :
    (perform b c).run s = ((b.call c s.server).1.mapError (.backend c.stage),
      { s with server := (b.call c s.server).2 }) := by
  rw [Attempt.run, perform]
  rcases b.call c s.server with ⟨_ | _, _⟩ <;> rfl

theorem mirrors_perform (c : Call) : Mirrors (perform b c) (perform b.recorded c) := by
  intro s
  rw [run_perform, run_perform]
  rfl

theorem mirrors_act (c : Call) : Mirrors (act b c) (act b.recorded c) :=
  (mirrors_perform b c).bind fun _ => .pure _

theorem mirrors_performAll (calls : List Call) :
    Mirrors (performAll b calls) (performAll b.recorded calls) := by
  induction calls with
  | nil => exact .pure []
  | cons c cs ih => exact (mirrors_perform b c).bind fun _ => ih.bind fun _ => .pure _

theorem mirrors_converse (st : Statement) (owns : Bool) :
    Mirrors (converse b st owns) (converse b.recorded st owns) := by
  rw [← Bool.not_not owns, converse_eq, converse_eq]
  exact mirrors_performAll b _

theorem mirrors_abandon : Mirrors (abandon b) (abandon b.recorded) := by
  refine .get_bind fun s => ?_
  change Mirrors (if b.inTransaction s.server.state then _ else _)
    (if b.inTransaction s.server.state then _ else _)
  split
  · exact (mirrors_act b .rollback).tryCatch fun _ => .pure _
  · exact .pure _

theorem mirrors_execute : Mirrors (execute b) (execute b.recorded) := by
  refine .get_bind fun s => ?_
  have hs : s.plain.staged? = s.staged? := rfl
  rw [hs]
  cases s.staged? with
  | none => exact .throw _
  | some st =>
    refine .tryCatch ?_ fun e => (mirrors_abandon b).bind fun _ => .throw e
    exact (mirrors_converse b st _).bind fun _ => .bind (.modify fun _ => rfl) fun _ => .pure _

theorem mirrors_runAll (statements : List Statement) :
    Mirrors (runAll b statements) (runAll b.recorded statements) :=
  .foldlM (fun _ _ => .bind (.modify fun _ => rfl) fun _ => mirrors_execute b) [] statements

theorem mirrors_describe (table : String) :
    Mirrors (describe b table) (describe b.recorded table) :=
  (mirrors_perform b _).bind fun _ => .pure _

theorem mirrors_plan (operation : Schema.Operation) (t : Table) :
    Mirrors (plan b operation t) (plan b.recorded operation t) := by
  refine .bind ?_ fun _ => .ofExcept _
  rw [inspect, inspect]
  split
  · exact mirrors_describe b t.name
  · exact .pure []

end Session

end BoundSql
