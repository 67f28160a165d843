import BoundSql.Proofs.Condition.Validity
import BoundSql.Proofs.Query.Alignment

/-! # Acceptance of queries

A query has a statement if it names a table, selects something, and all its conditions are valid.
Otherwise it is refused for the first thing that is wrong: the table comes before the selection, the
selection before the conditions, and the conditions come in the order of their texts.
-/

namespace BoundSql.Query

def problems (q : Query) : List Error :=
  problemIf (q.table = "") (.incomplete .queryTable) ++
    (problemIf (q.select = []) .emptyProjection ++ q.predicates.flatMap Predicate.problems)

theorem settled_fragment (q : Query) :
    Settled (fun _ => True) (q.predicates.flatMap Predicate.problems) q.fragment := by
  have hfilter (f : ColumnFilter) :
      Settled (fun _ => True) (f.predicates.flatMap Predicate.problems) f.fragment := by
    rw [f.fragment_eq]
    exact Predicate.settled_fragments f.predicates
  have hfilters := Settled.mapM (l := q.filters) fun f _ => hfilter f
  have hgroups := Settled.mapM (l := q.orFilters) fun ps _ => Predicate.settled_groupFragment ps
  rw [predicates, List.flatMap_append, ← List.flatMap_id, List.flatMap_assoc, List.flatMap_assoc]
  exact hfilters.bind fun fs _ => hgroups.bind_last fun gs _ => .ok trivial

theorem settled_build (q : Query) (delete : Bool) :
    Settled (fun _ => True) q.problems (q.build delete) := by
  rw [build_eq]
  simp only [String.isEmpty_iff, List.isEmpty_iff]
  exact .guard fun _ => .guard fun _ => q.settled_fragment.map fun _ _ => trivial

/-- A query has a statement if it names a table, selects something and has valid conditions only; a
query without one is refused for its first problem. -/
theorem build_accepts (q : Query) (delete : Bool) :
    ((∃ st, q.build delete = .ok st) ↔
      q.table ≠ "" ∧ q.select ≠ [] ∧ ∀ p ∈ q.predicates, p.condition.Valid) ∧
    ∀ e, q.build delete = .error e ↔ q.problems.head? = some e := by
  have h := settled_build q delete
  refine ⟨?_, h.eq_error_iff⟩
  rw [h.exists_eq_ok_iff]
  simp [problems, Predicate.problems]

end BoundSql.Query
