import BoundSql.Condition.Formatter
import Mathlib.Data.List.Basic

/-! # Fragments of conditions

What a condition contributes to a statement depends on the condition alone: a text, and the values
for its placeholders. The text knows the values only by their number. The formatter gives that text
and binds those values behind the ones that are there; where a condition has no fragment, the
bindings stay as they were.
-/

namespace BoundSql

/-- A part of a statement with the values for its placeholders, in order. -/
structure Fragment (α : Type) where
  content : α
  binds : List Value

def Fragment.gather {α : Type} (fs : List (Fragment α)) : Fragment (List α) :=
  ⟨fs.map (·.content), fs.flatMap (·.binds)⟩

/-- Whether an operand is one value, or a list of one value at least. -/
def Operand.filled : Operand → Bool
  | scalar _ => true
  | list vs => !vs.isEmpty
  | range _ _ => false

def Operand.isRange : Operand → Bool
  | range _ _ => true
  | _ => false

def Operator.accepts : Operator → Operand → Bool
  | isNull, _ => true
  | isNotNull, _ => true
  | between, operand => operand.isRange
  | _, operand => operand.filled

/-- The values that an operator takes from its operand: none for a test for null. -/
def Operator.taken : Operator → Operand → List Value
  | isNull, _ => []
  | isNotNull, _ => []
  | _, operand => operand.values

def Operator.text (column : String) (op : Operator) (count : Nat) : String :=
  match op with
  | isNull | isNotNull => column ++ " " ++ op.sql
  | between => column ++ " BETWEEN ? AND ?"
  | among | notAmong =>
    column ++ " " ++ op.sql ++ " (" ++ ",".intercalate (List.replicate count "?") ++ ")"
  | _ => " OR ".intercalate (List.replicate count (column ++ " " ++ op.sql ++ " ?"))

theorem Operator.ofKeyword?_eq_some {keyword : String} {op : Operator}
    (h : ofKeyword? keyword = some op) : keyword = op.keyword := by
  have := List.find?_some h
  simp_all

def Condition.fragment (column : String) (c : Condition) : Except Error (Fragment String) :=
  match Operator.ofKeyword? c.operator with
  | none => .error (.unsupportedOperator c.operator)
  | some op =>
    if op.accepts c.operand then
      .ok ⟨Formatter.enclosed (op.text column (op.taken c.operand).length), op.taken c.operand⟩
    else .error (.invalidOperand c.operator column)

theorem Condition.fragment_eq_ok {column : String} {c : Condition} {f : Fragment String} :
    c.fragment column = .ok f ↔ ∃ op, Operator.ofKeyword? c.operator = some op ∧
      op.accepts c.operand ∧
      f = ⟨Formatter.enclosed (op.text column (op.taken c.operand).length),
        op.taken c.operand⟩ := by
  rw [fragment]
  cases Operator.ofKeyword? c.operator with
  | none => simp
  | some op =>
    simp only [Option.some.injEq, exists_eq_left']
    cases op.accepts c.operand <;> simp [eq_comm (a := f)]

def Predicate.fragment (p : Predicate) : Except Error (Fragment String) :=
  p.condition.fragment p.column

def Predicate.fragments (ps : List Predicate) : Except Error (Fragment (List String)) :=
  (ps.mapM fragment).map .gather

def Bindings.append (b : Bindings) (vs : List Value) : Bindings :=
  ⟨b.values ++ vs⟩

namespace Bindings

@[simp] theorem append_nil (b : Bindings) : b.append [] = b := by
  simp [append]

@[simp] theorem append_append (b : Bindings) (vs ws : List Value) :
    (b.append vs).append ws = b.append (vs ++ ws) := by
  simp [append]

@[simp] theorem values_append (b : Bindings) (vs : List Value) :
    (b.append vs).values = b.values ++ vs := rfl

@[simp] theorem values_empty : empty.values = [] := rfl

end Bindings

namespace Formatter

variable {α β : Type}

/-- What a formatter comes to, whatever is bound before: a fragment, or an error. -/
def Computes (x : Formatter α) : Except Error (Fragment α) → Prop
  | .ok f => ∀ b, x.run b = (.ok f.content, b.append f.binds)
  | .error e => ∀ b, (x.run b).1 = .error e

theorem Computes.pure (a : α) : Computes (Pure.pure a) (.ok ⟨a, []⟩) := by
  intro b
  simp

theorem Computes.bind {x : Formatter α} {k : α → Formatter β} {r : Except Error (Fragment α)}
    {g : α → Except Error (Fragment β)} (hx : x.Computes r) (hk : ∀ a, (k a).Computes (g a)) :
    (x >>= k).Computes
      (r >>= fun f => (g f.content).map fun h => ⟨h.content, f.binds ++ h.binds⟩) := by
  cases r with
  | error e =>
    intro b
    rcases hr : x.run b with ⟨_, b'⟩
    have h := hx b
    rw [hr] at h
    subst h
    simp [Attempt.run_bind, hr]
  | ok f =>
    have h := hk f.content
    change Computes _ ((g f.content).map _)
    cases hg : g f.content with
    | error e =>
      intro b
      rw [hg] at h
      rw [Attempt.run_bind, hx b]
      exact h _
    | ok f' =>
      intro b
      rw [hg] at h
      rw [Attempt.run_bind, hx b]
      simp only [h (b.append f.binds), Bindings.append_append]

theorem Computes.mapM {k : α → Formatter β} {g : α → Except Error (Fragment β)}
    (h : ∀ a, (k a).Computes (g a)) (l : List α) :
    (l.mapM k).Computes ((l.mapM g).map .gather) := by
  induction l with
  | nil => exact Computes.pure []
  | cons a l ih =>
    rw [List.mapM_cons, List.mapM_cons]
    convert (h a).bind fun b => ih.bind fun bs => Computes.pure (b :: bs) using 1
    rcases g a with e | f
    · rfl
    · rcases l.mapM g with e | fs
      · rfl
      · simp [Fragment.gather, Bind.bind, Except.bind, Except.map, Pure.pure, Except.pure]

@[simp] theorem run_supply (v : Value) (b : Bindings) :
    (supply v).run b = (.ok ⟨⟩, b.append [v]) := rfl

@[simp] theorem run_forM_supply (vs : List Value) (b : Bindings) :
    Attempt.run (forM vs supply) b = (.ok ⟨⟩, b.append vs) := by
  induction vs generalizing b with
  | nil => simp
  | cons v vs ih => simp [Attempt.run_bind, ih]

theorem run_mapM_comparison (column : String) (op : Operator) (vs : List Value) (b : Bindings) :
    (vs.mapM (comparison column op)).run b =
      (.ok (List.replicate vs.length (column ++ " " ++ op.sql ++ " ?")), b.append vs) := by
  induction vs generalizing b with
  | nil => simp
  | cons v vs ih =>
    simp [List.mapM_cons, Attempt.run_bind, Attempt.run_map, comparison, ih, List.replicate_succ]

theorem run_interval (column : String) (misfit : Error) (operand : Operand) (b : Bindings) :
    (interval column misfit operand).run b =
      if operand.isRange then
        (.ok (enclosed (column ++ " BETWEEN ? AND ?")), b.append operand.values)
      else (.error misfit, b) := by
  cases operand <;>
    simp [interval, Operand.isRange, Operand.values, Attempt.run_bind, Attempt.run_map]

theorem run_membership (column : String) (op : Operator) (misfit : Error) (operand : Operand)
    (b : Bindings) :
    (membership column op misfit operand).run b =
      if operand.filled then
        (.ok (enclosed (column ++ " " ++ op.sql ++ " (" ++
          ",".intercalate (List.replicate operand.values.length "?") ++ ")")),
          b.append operand.values)
      else (.error misfit, b) := by
  rcases operand with v | (_ | ⟨v, vs⟩) | ⟨low, high⟩ <;>
    simp [membership, Operand.filled, Operand.values, Attempt.run_bind, Attempt.run_map,
      List.replicate_succ, String.append_assoc]

theorem run_comparisons (column : String) (op : Operator) (misfit : Error) (operand : Operand)
    (b : Bindings) :
    (comparisons column op misfit operand).run b =
      if operand.filled then
        (.ok (enclosed (" OR ".intercalate
          (List.replicate operand.values.length (column ++ " " ++ op.sql ++ " ?")))),
          b.append operand.values)
      else (.error misfit, b) := by
  rcases operand with v | (_ | ⟨v, vs⟩) | ⟨low, high⟩
  · simp [comparisons, comparison, Operand.filled, Operand.values, Attempt.run_map]
  · simp [comparisons, Operand.filled]
  · simp only [comparisons]
    rw [Attempt.run_bind, run_mapM_comparison]
    simp [Operand.filled, Operand.values]
  · simp [comparisons, Operand.filled]

/-- The formatter gives the text of an operator and binds what the operator takes. -/
theorem run_operation (column : String) (op : Operator) (misfit : Error) (operand : Operand)
    (b : Bindings) :
    (operation column op misfit operand).run b =
      if op.accepts operand then
        (.ok (enclosed (op.text column (op.taken operand).length)), b.append (op.taken operand))
      else (.error misfit, b) := by
  cases op with
  | isNull | isNotNull =>
    simp [operation, nullTest, Operator.accepts, Operator.taken, Operator.text]
  | between => exact run_interval column misfit operand b
  | among => exact run_membership column .among misfit operand b
  | notAmong => exact run_membership column .notAmong misfit operand b
  | _ => exact run_comparisons column _ misfit operand b

/-- A condition with a fragment gives its text and binds its values; any other leaves the bindings
as they were. -/
theorem run_condition (column : String) (c : Condition) (b : Bindings) :
    (condition column c).run b = match c.fragment column with
      | .ok f => (.ok f.content, b.append f.binds)
      | .error e => (.error e, b) := by
  rw [condition, Condition.fragment]
  cases Operator.ofKeyword? c.operator with
  | none => rfl
  | some op =>
    simp only [run_operation]
    split <;> rfl

theorem computes_condition (column : String) (c : Condition) :
    (condition column c).Computes (c.fragment column) := by
  have h := run_condition column c
  cases hf : c.fragment column with
  | error e => intro b; rw [h, hf]
  | ok f => intro b; rw [h, hf]

theorem computes_predicate (p : Predicate) : (predicate p).Computes p.fragment :=
  computes_condition p.column p.condition

theorem computes_predicates (ps : List Predicate) :
    (ps.mapM predicate).Computes (Predicate.fragments ps) :=
  Computes.mapM computes_predicate ps

end Formatter

def Predicate.groupFragment (ps : List Predicate) : Except Error (Fragment (Option String)) :=
  (Predicate.fragments ps).map fun f =>
    ⟨if ps.isEmpty then none else some (Formatter.enclosed (" OR ".intercalate f.content)), f.binds⟩

namespace Formatter

/-- A group with a fragment gives its text and binds the values of all members; any other leaves the
bindings as they were. -/
theorem run_group (ps : List Predicate) (b : Bindings) :
    (group ps).run b = match Predicate.groupFragment ps with
      | .ok f => (.ok f.content, b.append f.binds)
      | .error e => (.error e, b) := by
  cases ps with
  | nil => exact congrArg (Prod.mk _) (Bindings.append_nil b).symm
  | cons p ps =>
    -- The members are formatted on a list of their own, which is empty at first.
    have h := computes_predicates (p :: ps)
    rcases hr : ((p :: ps).mapM predicate).run .empty with ⟨texts, scratch⟩
    have hg : (group (p :: ps)).run b = Attempt.run (do
        let texts ← MonadExcept.ofExcept texts
        forM scratch.values supply
        pure (some (enclosed (" OR ".intercalate texts)))) b := by
      simp only [group, hr]
      rfl
    rw [hg, Predicate.groupFragment]
    cases hf : Predicate.fragments (p :: ps) with
    | error e =>
      rw [hf] at h
      obtain rfl : texts = .error e := by rw [← h .empty, hr]
      simp [Attempt.run_bind, Except.map]
    | ok f =>
      rw [hf] at h
      obtain ⟨rfl, rfl⟩ := Prod.mk.inj (hr.symm.trans (h .empty))
      simp [Attempt.run_bind, Attempt.run_map, Except.map]

theorem computes_group (ps : List Predicate) :
    (group ps).Computes (Predicate.groupFragment ps) := by
  have h := run_group ps
  cases hf : Predicate.groupFragment ps with
  | error e => intro b; rw [h, hf]
  | ok f => intro b; rw [h, hf]

end Formatter

end BoundSql
