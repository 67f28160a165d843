import BoundSql.Error

/-! # Attempts

An attempt works on a state and may fail. What it has done to the state before an error stays done;
only a caller that mends the state undoes it.
-/

namespace BoundSql

/-- A computation with a state that can fail with an error. -/
abbrev Attempt (σ : Type) := ExceptT Error (StateM σ)

namespace Attempt

variable {σ α β : Type}

/-- The result or the error of an attempt, and the state after it. -/
def run (x : Attempt σ α) (s : σ) : Except Error α × σ :=
  x s

@[simp] theorem run_pure (a : α) (s : σ) : run (pure a : Attempt σ α) s = (.ok a, s) := rfl

@[simp] theorem run_throw (e : Error) (s : σ) :
    run (throw e : Attempt σ α) s = (.error e, s) := rfl

@[simp] theorem run_get (s : σ) : run (get : Attempt σ σ) s = (.ok s, s) := rfl

@[simp] theorem run_modify (f : σ → σ) (s : σ) :
    run (modify f : Attempt σ PUnit) s = (.ok ⟨⟩, f s) := rfl

@[simp] theorem run_ofExcept (r : Except Error α) (s : σ) :
    run (MonadExcept.ofExcept r : Attempt σ α) s = (r, s) := by
  cases r <;> rfl

theorem run_bind (x : Attempt σ α) (f : α → Attempt σ β) (s : σ) :
    run (x >>= f) s = match run x s with
      | (.ok a, s) => run (f a) s
      | (.error e, s) => (.error e, s) := by
  simp only [run, bind, ExceptT.bind, ExceptT.mk, StateT.bind]
  rcases x s with ⟨e | a, s⟩ <;> rfl

theorem run_map (f : α → β) (x : Attempt σ α) (s : σ) :
    run (f <$> x) s = match run x s with
      | (.ok a, s) => (.ok (f a), s)
      | (.error e, s) => (.error e, s) := by
  rw [← bind_pure_comp, run_bind]
  rcases run x s with ⟨_ | a, s⟩ <;> rfl

theorem run_tryCatch (x : Attempt σ α) (f : Error → Attempt σ α) (s : σ) :
    run (tryCatch x f) s = match run x s with
      | (.ok a, s) => (.ok a, s)
      | (.error e, s) => run (f e) s := by
  simp only [run, tryCatch, tryCatchThe, MonadExceptOf.tryCatch, ExceptT.tryCatch, ExceptT.mk, bind,
    StateT.bind]
  rcases x s with ⟨e | a, s⟩ <;> rfl

end Attempt

end BoundSql
