import BoundSql.Session.Command

/-! # Short forms

The commands that create a table, alter it or add an index to it are short forms of applying the
operation: they make the same calls, leave the same session and the same table, and fail with the
same errors. Only the rows of a new index are not given back.
-/

namespace BoundSql

def TableCommand.operation : TableCommand → Schema.Operation
  | create mode => .createTable mode
  | plan operation => operation
  | apply operation => operation
  | alter => .alterTable
  | addIndex name columns unique => .addIndex name columns unique

def TableCommand.runs : TableCommand → Bool
  | plan _ => false
  | _ => true

namespace Session

variable {σ : Type} (b : Backend σ) (t : Table) (s : Session σ)

theorem run_plan (operation : Schema.Operation) :
    (plan b operation t).run s = match (inspect b operation t).run s with
      | (.ok current, s) => (operation.statements t current, s)
      | (.error e, s) => (.error e, s) := by
  rw [plan, Attempt.run_bind]
  rcases (inspect b operation t).run s with ⟨e | current, s'⟩ <;> simp

theorem run_plan_createTable (mode : Schema.CreateMode) :
    (plan b (.createTable mode) t).run s = (Schema.create t mode, s) := by
  rw [run_plan]
  rfl

theorem create_eq_apply (mode : Schema.CreateMode) :
    create b mode t s = apply b (.createTable mode) t s := by
  rw [create, apply, run_plan_createTable]
  rcases Schema.create t mode with e | ⟨statements, t'⟩ <;> rfl

/-- Makes one statement from the columns of a table, and runs it. -/
def runSingle (make : List PhysicalColumn → Except Error Statement) :
    Attempt (Session σ) (List Row) := do
  let current ← describe b t.name
  let st ← MonadExcept.ofExcept (make current)
  runAll b [st]

theorem apply_eq_runSingle {operation : Schema.Operation}
    {make : List PhysicalColumn → Except Error Statement}
    (hi : operation.needsIntrospection)
    (hm : ∀ current, operation.statements t current = (make current).map fun st => ([st], t)) :
    apply b operation t s =
      (((runSingle b t make).run s).1, t, ((runSingle b t make).run s).2) := by
  rw [apply, run_plan, inspect, if_pos hi, runSingle, Attempt.run_bind]
  rcases (describe b t.name).run s with ⟨e | current, s'⟩
  · rfl
  · simp only [hm, Attempt.run_bind, Attempt.run_ofExcept]
    rcases make current with e | st <;> rfl

theorem alter_eq_apply :
    apply b .alterTable t s = (((alter b t).run s).1, t, ((alter b t).run s).2) := by
  refine apply_eq_runSingle b t s rfl fun current => ?_
  change (do pure ([← Schema.alter t current], t)) = _
  rcases Schema.alter t current with e | st <;> rfl

theorem addIndex_eq_apply (name columns : String) (unique : Bool) :
    let run := (addIndex b t name columns unique).run s
    let applied := apply b (.addIndex name columns unique) t s
    run.1 = (applied.1.map fun _ => ⟨⟩) ∧ applied.2 = (t, run.2) := by
  let single := runSingle b t fun current => Schema.addIndex t current name columns unique
  have h : apply b (.addIndex name columns unique) t s =
      ((single.run s).1, t, (single.run s).2) := by
    refine apply_eq_runSingle b t s rfl fun current => ?_
    change (do pure ([← Schema.addIndex t current name columns unique], t)) = _
    rcases Schema.addIndex t current name columns unique with e | st <;> rfl
  have hi : addIndex b t name columns unique = single >>= fun _ => pure ⟨⟩ := by
    simp only [addIndex, single, runSingle, bind_assoc]
  simp only [h, hi, Attempt.run_bind]
  rcases single.run s with ⟨e | rows, s'⟩ <;> exact ⟨rfl, rfl⟩

/-- A command that runs statements is, but for its rows, the application of its operation. -/
theorem runOn_eq_apply {c : TableCommand} (hc : c.runs) :
    (runOn b t s c).2 = (apply b c.operation t s).2 ∧
      (runOn b t s c).1.map (fun _ => ()) = (apply b c.operation t s).1.map fun _ => () := by
  have hmap {α β : Type} (r : Except Error α) (f : α → β) :
      (r.map f).map (fun _ => ()) = r.map fun _ => () := by
    cases r <;> rfl
  cases c with
  | create mode => simp only [runOn, TableCommand.operation, create_eq_apply, hmap, true_and]
  | plan => cases hc
  | apply operation => simp only [runOn, TableCommand.operation, hmap, true_and]
  | alter => simp only [runOn, TableCommand.operation, alter_eq_apply, hmap, true_and]
  | addIndex name columns unique =>
    obtain ⟨hresult, hafter⟩ := addIndex_eq_apply b t s name columns unique
    simp only [runOn, TableCommand.operation, hresult, hafter, hmap, true_and]

end Session

end BoundSql
