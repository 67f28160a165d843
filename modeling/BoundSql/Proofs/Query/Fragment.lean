import BoundSql.Proofs.Condition.Fragment
import BoundSql.Query.Build

/-! # Fragments of queries

What stands after WHERE is one fragment as well: its texts are those of the filters, the groups and
the raw expressions, its values those of the filters and the groups. The statement of a query is
made from this fragment and the texts of the descriptor.
-/

namespace BoundSql

def ColumnFilter.fragment (f : ColumnFilter) : Except Error (Fragment (List String)) :=
  (f.conditions.mapM (Condition.fragment f.column)).map .gather

namespace Query

def fragment (q : Query) : Except Error (Fragment (List String)) := do
  let filters ← q.filters.mapM ColumnFilter.fragment
  let groups ← q.orFilters.mapM Predicate.groupFragment
  pure ⟨filters.flatMap (·.content) ++ groups.flatMap (·.content.toList) ++
    q.expressions.map expressionText, filters.flatMap (·.binds) ++ groups.flatMap (·.binds)⟩

theorem computes_filterTexts (f : ColumnFilter) : (filterTexts f).Computes f.fragment :=
  Formatter.Computes.mapM (Formatter.computes_condition f.column) f.conditions

theorem computes_whereTexts (q : Query) : q.whereTexts.Computes q.fragment := by
  have hf := Formatter.Computes.mapM computes_filterTexts q.filters
  have hg := Formatter.Computes.mapM Formatter.computes_group q.orFilters
  rw [whereTexts, fragment]
  convert hf.bind fun filters => hg.bind fun groups => Formatter.Computes.pure
    (filters.flatten ++ groups.filterMap id ++ q.expressions.map expressionText) using 1
  rcases q.filters.mapM ColumnFilter.fragment with e | fs
  · rfl
  · rcases q.orFilters.mapM Predicate.groupFragment with e | gs
    · rfl
    · simp [Fragment.gather, List.flatMap_def, List.filterMap_eq_flatMap_toList, Function.comp_def,
        bind, Except.bind, Except.map, pure, Except.pure]

/-- The statement of a query comes from its fragment; a query without table or selection has
none. -/
theorem build_eq (q : Query) (delete : Bool) :
    q.build delete =
      if q.table.isEmpty then .error (.incomplete .queryTable)
      else if q.select.isEmpty then .error .emptyProjection
      else q.fragment.map fun f => ⟨q.sql delete f.content, f.binds⟩ := by
  have h := computes_whereTexts q
  rcases hr : q.whereTexts.run .empty with ⟨texts, binds⟩
  rw [build, hr]
  by_cases ht : q.table.isEmpty
  · rw [if_pos ht, if_pos ht]
    rfl
  by_cases hs : q.select.isEmpty
  · rw [if_neg ht, if_neg ht, if_pos hs, if_pos hs]
    rfl
  rw [if_neg ht, if_neg ht, if_neg hs, if_neg hs]
  cases hf : q.fragment with
  | error e =>
    rw [hf] at h
    obtain rfl : texts = .error e := by rw [← h .empty, hr]
    rfl
  | ok f =>
    rw [hf] at h
    obtain ⟨rfl, rfl⟩ := Prod.mk.inj (hr.symm.trans (h .empty))
    rfl

theorem exists_fragment_of_build {q : Query} {delete : Bool} {st : Statement}
    (h : q.build delete = .ok st) :
    ∃ f, q.fragment = .ok f ∧ st = ⟨q.sql delete f.content, f.binds⟩ := by
  rw [build_eq] at h
  split at h
  · cases h
  split at h
  · cases h
  cases hf : q.fragment with
  | error e => rw [hf] at h; cases h
  | ok f => exact ⟨f, rfl, (Except.ok.inj (hf ▸ h)).symm⟩

end Query

end BoundSql
