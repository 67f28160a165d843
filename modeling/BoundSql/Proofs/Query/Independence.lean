import BoundSql.Proofs.Agreement
import BoundSql.Proofs.Query.Fragment

/-! # Independence of the values

Two queries are alike if they differ in nothing but the values of their conditions. A fragment knows
these values by their number only, so that alike queries have the same text or the same error: what
is bound cannot change what is asked.
-/

namespace BoundSql

/-- Operands of one form with equally many values. -/
inductive Operand.Alike : Operand → Operand → Prop
  | scalar (v w : Value) : Alike (.scalar v) (.scalar w)
  | list {vs ws : List Value} (h : vs.length = ws.length) : Alike (.list vs) (.list ws)
  | range (low high low' high' : Value) : Alike (.range low high) (.range low' high')

structure Condition.Alike (c d : Condition) : Prop where
  operator : c.operator = d.operator
  operand : c.operand.Alike d.operand

structure Predicate.Alike (p r : Predicate) : Prop where
  column : p.column = r.column
  condition : p.condition.Alike r.condition

structure ColumnFilter.Alike (f g : ColumnFilter) : Prop where
  column : f.column = g.column
  conditions : List.Forall₂ Condition.Alike f.conditions g.conditions

def Query.unfiltered (q : Query) : Query :=
  { q with filters := [], orFilters := [] }

/-- Queries with alike conditions that agree in all the rest. -/
structure Query.Alike (q r : Query) : Prop where
  filters : List.Forall₂ ColumnFilter.Alike q.filters r.filters
  orFilters : List.Forall₂ (List.Forall₂ Predicate.Alike) q.orFilters r.orFilters
  rest : q.unfiltered = r.unfiltered

namespace Operand.Alike

variable {a b : Operand}

theorem length_values (h : a.Alike b) : a.values.length = b.values.length := by
  cases h with
  | scalar => rfl
  | list h => exact h
  | range => rfl

theorem filled (h : a.Alike b) : a.filled = b.filled := by
  cases h with
  | scalar => rfl
  | @list vs ws h => cases vs <;> cases ws <;> simp_all [Operand.filled]
  | range => rfl

theorem isRange (h : a.Alike b) : a.isRange = b.isRange := by
  cases h <;> rfl

theorem accepts (h : a.Alike b) (op : Operator) : op.accepts a = op.accepts b := by
  cases op with
  | isNull | isNotNull => rfl
  | between => exact h.isRange
  | _ => exact h.filled

theorem length_taken (h : a.Alike b) (op : Operator) :
    (op.taken a).length = (op.taken b).length := by
  cases op with
  | isNull | isNotNull => rfl
  | _ => exact h.length_values

end Operand.Alike

variable {α : Type}

def Fragment.Same (f g : Fragment α) : Prop :=
  f.content = g.content

theorem Fragment.Same.flatMap {fs gs : List (Fragment α)} (h : List.Forall₂ Same fs gs)
    (texts : α → List β) : fs.flatMap (texts ·.content) = gs.flatMap (texts ·.content) := by
  induction h with
  | nil => rfl
  | cons h _ ih => exact congrArg₂ (texts · ++ ·) h ih

theorem Fragment.Same.gather {fs gs : List (Fragment α)} (h : List.Forall₂ Same fs gs) :
    Same (.gather fs) (.gather gs) := by
  have hc := Same.flatMap h ([·])
  rwa [← List.map_eq_flatMap, ← List.map_eq_flatMap] at hc

theorem Condition.Alike.fragment {c d : Condition} (h : c.Alike d) (column : String) :
    Agree Fragment.Same (c.fragment column) (d.fragment column) := by
  unfold Condition.fragment
  rw [h.operator]
  cases Operator.ofKeyword? d.operator with
  | none => exact .error _
  | some op =>
    simp only [h.operand.accepts, h.operand.length_taken]
    split
    · exact .ok rfl
    · exact .error _

theorem Predicate.Alike.fragment {p r : Predicate} (h : p.Alike r) :
    Agree Fragment.Same p.fragment r.fragment := by
  rw [Predicate.fragment, Predicate.fragment, h.column]
  exact h.condition.fragment r.column

theorem Predicate.alike_groupFragment {ps rs : List Predicate}
    (h : List.Forall₂ Predicate.Alike ps rs) :
    Agree Fragment.Same (Predicate.groupFragment ps) (Predicate.groupFragment rs) := by
  have hs : Agree Fragment.Same (Predicate.fragments ps) (Predicate.fragments rs) :=
    (Agree.mapM (fun _ _ h => h.fragment) h).map Fragment.Same.gather
  refine hs.map fun hfg => ?_
  rw [Fragment.Same] at hfg ⊢
  cases h <;> simp [hfg]

theorem ColumnFilter.Alike.fragment {f g : ColumnFilter} (h : f.Alike g) :
    Agree Fragment.Same f.fragment g.fragment := by
  rw [ColumnFilter.fragment, ColumnFilter.fragment, h.column]
  exact (Agree.mapM (fun _ _ h => h.fragment g.column) h.conditions).map Fragment.Same.gather

namespace Query

variable {q r : Query}

theorem Alike.fragment (h : q.Alike r) : Agree Fragment.Same q.fragment r.fragment := by
  have he : q.expressions = r.expressions := (congrArg expressions h.rest :)
  refine (Agree.mapM (fun _ _ h => h.fragment) h.filters).bind fun hf => ?_
  refine (Agree.mapM (fun _ _ h => Predicate.alike_groupFragment h) h.orFilters).bind fun hg =>
    .ok ?_
  have hfs := Fragment.Same.flatMap hf id
  have hgs := Fragment.Same.flatMap hg Option.toList
  simp only [id] at hfs
  simp only [Fragment.Same, hfs, hgs, he]

theorem Alike.sql (h : q.Alike r) (delete : Bool) (texts : List String) :
    q.sql delete texts = r.sql delete texts :=
  (congrArg (Query.sql · delete texts) h.rest :)

/-- Values never reach the text of a statement: alike queries both have a statement, and these have
one text, or both fail with one error. -/
theorem build_sql_of_alike (h : q.Alike r) (delete : Bool) :
    Agree (fun st st' => st.sql = st'.sql) (q.build delete) (r.build delete) := by
  have ht : q.table = r.table := (congrArg table h.rest :)
  have hs : q.select = r.select := (congrArg select h.rest :)
  rw [build_eq, build_eq, ht, hs]
  split
  · exact .error _
  · split
    · exact .error _
    · refine h.fragment.map fun hfg => ?_
      simp only [h.sql, show _ = _ from hfg]

/-- A hostile text and a placeholder as values, against harmless ones. -/
theorem build_sql_of_hostile :
    let query (name : Value) (low high : Value) (roles : List Value) : Query := {
      table := "accounts"
      select := ["id"]
      filters := [⟨"name", [.compare .equal name]⟩, ⟨"age", [.between low high]⟩]
      orFilters := [[⟨"role", .among roles⟩, ⟨"closed", .isNull⟩]] }
    let q := query (.text "x' OR ?; --") (.int 18) .null [.text "?", .bool true]
    let r := query (.text "ann") (.int 0) (.int 99) [.null, .blob []]
    q.Alike r ∧ Agree (fun st st' => st.sql = st'.sql) (q.build false) (r.build false) := by
  intro query q r
  have h : q.Alike r := by
    refine ⟨.cons ⟨rfl, .cons ⟨rfl, .scalar _ _⟩ .nil⟩ (.cons ⟨rfl, .cons ⟨rfl, ?_⟩ .nil⟩ .nil),
      .cons (.cons ⟨rfl, ⟨rfl, .list rfl⟩⟩ (.cons ⟨rfl, ⟨rfl, .scalar _ _⟩⟩ .nil)) .nil, rfl⟩
    exact .range _ _ _ _
  exact ⟨h, build_sql_of_alike h false⟩

end Query

end BoundSql
