import BoundSql.Proofs.Keyed
import BoundSql.Proofs.Query.Grouping

/-! # What a query keeps of its filter calls

A query is described by calls, one after the other, that start from its table alone. The conditions
that calls put on one column stand together, in the order of the calls, and the columns stand in the
order of their first use. So the statement has the conditions column by column, and binds their
values in this order.
-/

namespace BoundSql

namespace ColumnFilter

variable {column : String} {filters : List ColumnFilter}

theorem insert_of_not_mem (h : column ∉ filters.map (·.column)) (c : Condition) :
    insert column c filters = filters ++ [⟨column, [c]⟩] := by
  induction filters with
  | nil => rfl
  | cons f rest ih =>
    rw [List.map_cons, List.mem_cons, not_or] at h
    rw [insert, if_neg (Ne.symm h.1), ih h.2, List.cons_append]

theorem insert_of_mem (hcolumns : (filters.map (·.column)).Nodup)
    (h : column ∈ filters.map (·.column)) (c : Condition) :
    insert column c filters = filters.map fun f =>
      if f.column = column then { f with conditions := f.conditions ++ [c] } else f := by
  induction filters with
  | nil => cases h
  | cons f rest ih =>
    obtain ⟨hf, hrest⟩ := List.nodup_cons.mp hcolumns
    rw [insert, List.map_cons]
    split
    next heq =>
      have hother : ∀ g ∈ rest, g.column ≠ column := by
        intro g hg hcolumn
        exact hf (List.mem_map.mpr ⟨g, hg, hcolumn.trans heq.symm⟩)
      rw [List.map_congr_left fun g hg => if_neg (hother g hg), List.map_id']
    next hne =>
      have hmem : column ∈ rest.map (·.column) := (List.mem_cons.mp h).resolve_left (Ne.symm hne)
      rw [ih hrest hmem]

/-- The filters that some predicates make up: one for each column, with all conditions on it. -/
def ofPredicates (ps : List Predicate) : List ColumnFilter :=
  (ps.map (·.column)).eraseDups.map fun column =>
    ⟨column, (ps.filter (·.column == column)).map (·.condition)⟩

theorem columns_ofPredicates (ps : List Predicate) :
    (ofPredicates ps).map (·.column) = (ps.map (·.column)).eraseDups := by
  rw [ofPredicates, List.map_map]
  exact List.map_id _

theorem insert_ofPredicates (ps : List Predicate) (p : Predicate) :
    insert p.column p.condition (ofPredicates ps) = ofPredicates (ps ++ [p]) := by
  have hcolumns := columns_ofPredicates ps
  have hnodup : ((ofPredicates ps).map (·.column)).Nodup := hcolumns ▸ nodup_eraseDups _
  by_cases h : p.column ∈ ps.map (·.column)
  · rw [insert_of_mem hnodup (hcolumns ▸ List.mem_eraseDups.mpr h), ofPredicates, ofPredicates,
      List.map_append, List.map_singleton, eraseDups_concat, if_pos h, List.map_map]
    refine List.map_congr_left fun column _ => ?_
    by_cases hp : column = p.column
    · simp [hp]
    · simp [hp, Ne.symm hp]
  · have hnone : ps.filter (·.column == p.column) = [] := filter_eq_nil_of_key _ h
    rw [insert_of_not_mem (hcolumns ▸ mt List.mem_eraseDups.mp h), ofPredicates, ofPredicates,
      List.map_append, List.map_singleton, eraseDups_concat, if_neg h, List.map_append]
    congr 1
    · refine List.map_congr_left fun column hcolumn => ?_
      have hp : p.column ≠ column := fun heq => h (heq ▸ List.mem_eraseDups.mp hcolumn)
      simp [hp]
    · simp [hnone]

theorem predicates_ofPredicates (ps : List Predicate) :
    (ofPredicates ps).flatMap predicates = byKey (·.column) ps := by
  rw [ofPredicates, byKey, List.flatMap_map]
  congr 1
  ext1 column
  have hself : ∀ p ∈ ps.filter (·.column == column), Predicate.mk column p.condition = p := by
    intro p hp
    rw [← eq_of_beq (List.mem_filter.mp hp).2]
  rw [predicates, List.map_map]
  exact (List.map_congr_left hself).trans (List.map_id' _)

end ColumnFilter

theorem Predicate.binds_fragments {ps : List Predicate} {f : Fragment (List String)}
    (h : fragments ps = .ok f) : f.binds = ps.flatMap (·.condition.supplied) := by
  obtain ⟨fs, hfs, rfl⟩ := map_eq_ok.mp h
  have hbinds : fs.map (·.binds) = ps.map (·.condition.supplied) := by
    refine map_eq_of_forall₂ ?_ (mapM_eq_ok.mp hfs)
    intro f p h
    exact Condition.binds_fragment h
  rw [Fragment.gather, List.flatMap_def, List.flatMap_def, hbinds]

namespace Query

inductive Call where
  | select (columns : List String)
  | distinct (column : String)
  | join (j : Join)
  | filter (p : Predicate)
  | orFilter (group : List Predicate)
  | expression (e : Expression)
  | groupBy (expression : String)
  | orderBy (o : SortKey)
  | limit (offset count : UInt64)
  deriving DecidableEq, Repr

def after (q : Query) : Call → Query
  | .select columns => q.selecting columns
  | .distinct column => q.distinctOn column
  | .join j => q.join j
  | .filter p => q.filter p.column p.condition
  | .orFilter group => q.orFilter group
  | .expression e => q.expression e
  | .groupBy expression => q.groupedBy expression
  | .orderBy o => q.orderBy o
  | .limit offset count => q.limitedTo offset count

def described (table : String) (calls : List Call) : Query :=
  calls.foldl after (.new table)

def Call.asked? : Call → Option Predicate
  | filter p => some p
  | _ => none

theorem filters_after {q : Query} {ps : List Predicate}
    (h : q.filters = ColumnFilter.ofPredicates ps) (call : Call) :
    (q.after call).filters = ColumnFilter.ofPredicates (ps ++ call.asked?.toList) := by
  cases call with
  | filter p =>
    rw [after, Query.filter, h]
    exact ColumnFilter.insert_ofPredicates ps p
  | select | distinct | join | orFilter | expression | groupBy | orderBy | limit =>
    change q.filters = ColumnFilter.ofPredicates (ps ++ [])
    rwa [List.append_nil]

theorem filters_described (table : String) (calls : List Call) :
    (described table calls).filters =
      ColumnFilter.ofPredicates (calls.filterMap Call.asked?) := by
  induction calls using List.reverseRecOn with
  | nil => rfl
  | append_singleton calls call ih =>
    have hcall : [call].filterMap Call.asked? = call.asked?.toList := by
      rw [List.filterMap_eq_flatMap_toList, List.flatMap_singleton]
    rw [described, List.foldl_append, List.filterMap_append, hcall]
    exact filters_after ih call

/-- A statement of a query that has the conditions `ps` after WHERE, in front of the groups and the
raw expressions, and binds their values in front of those of the groups. -/
def OpensWith (q : Query) (delete : Bool) (st : Statement) (ps : List Predicate) : Prop :=
  ∃ texts groups, List.Forall₂ Predicate.Formats ps texts ∧
    List.Forall₂ (fun f group => Predicate.groupFragment group = .ok f) groups q.orFilters ∧
    st.sql = q.sql delete
      (texts ++ groups.flatMap (·.content.toList) ++ q.expressions.map expressionText) ∧
    st.binds = ps.flatMap (·.condition.supplied) ++ groups.flatMap (·.binds)

theorem opensWith_of_build {q : Query} {delete : Bool} {st : Statement}
    (h : q.build delete = .ok st) :
    q.OpensWith delete st (q.filters.flatMap ColumnFilter.predicates) := by
  obtain ⟨f, hf, rfl⟩ := exists_fragment_of_build h
  obtain ⟨fs, hfs, hf⟩ := bind_eq_ok.mp hf
  obtain ⟨groups, hgroups, hf⟩ := bind_eq_ok.mp hf
  obtain rfl := Except.ok.inj hf
  have hfilters : List.Forall₂ (fun f filter => Predicate.fragments filter.predicates = .ok f)
      fs q.filters := (mapM_eq_ok.mp hfs).imp fun f filter h => filter.fragment_eq ▸ h
  have hbinds : fs.map (·.binds) =
      q.filters.map (·.predicates.flatMap (·.condition.supplied)) := by
    refine map_eq_of_forall₂ ?_ hfilters
    intro f filter h
    exact Predicate.binds_fragments h
  refine ⟨fs.flatMap (·.content), groups, ?_, mapM_eq_ok.mp hgroups, ?_, ?_⟩
  · refine List.rel_flatMap hfilters.flip ?_
    intro filter f h
    exact Predicate.formats_of_fragments h
  · rfl
  · change fs.flatMap (·.binds) ++ groups.flatMap (·.binds) = _
    rw [List.flatMap_assoc, List.flatMap_def (f := (·.binds)) (l := fs), hbinds, ← List.flatMap_def]

/-- A query has one filter for each column that its filter calls are on, in the order of first use,
and the filter has the conditions of the calls on its column in the order of the calls. So the
statement opens with what the calls ask for, sorted by column: nothing is lost, added or moved to
another column, and the conditions on one column keep their order. -/
theorem described_groups_calls (table : String) (calls : List Call) :
    let q := described table calls
    let asked := calls.filterMap Call.asked?
    let ordered := q.filters.flatMap ColumnFilter.predicates
    (q.filters.map (·.column)).Nodup ∧
      q.filters.map (·.column) = (asked.map (·.column)).eraseDups ∧
      (∀ f ∈ q.filters, f.conditions =
        (asked.filter (·.column == f.column)).map (·.condition)) ∧
      ordered = byKey (·.column) asked ∧ ordered.Perm asked ∧
      (∀ column, ordered.filter (·.column == column) = asked.filter (·.column == column)) ∧
      ∀ {delete : Bool} {st : Statement}, q.build delete = .ok st →
        q.OpensWith delete st ordered := by
  intro q asked ordered
  have hfilters : q.filters = ColumnFilter.ofPredicates asked := filters_described table calls
  have hcolumns : q.filters.map (·.column) = (asked.map (·.column)).eraseDups :=
    hfilters ▸ ColumnFilter.columns_ofPredicates asked
  have hordered : ordered = byKey (·.column) asked := by
    unfold ordered
    rw [hfilters, ColumnFilter.predicates_ofPredicates]
  refine ⟨?_, hcolumns, ?_, hordered, ?_, ?_, opensWith_of_build⟩
  · rw [hcolumns]
    exact nodup_eraseDups _
  · rw [hfilters, ColumnFilter.ofPredicates, List.forall_mem_map]
    intro column _
    rfl
  · rw [hordered]
    exact perm_byKey _ asked
  · rw [hordered]
    exact filter_byKey _ asked

/-- Conditions on two columns in turn, with a group and a test that binds nothing between them. -/
theorem described_groups_calls_on_two_columns :
    let calls : List Call := [
      .filter ⟨"age", .compare .greater (.int 18)⟩,
      .select ["id"],
      .filter ⟨"name", .compare .like (.text "a%")⟩,
      .orFilter [⟨"id", .among [.int 1, .int 2]⟩],
      .filter ⟨"age", .isNotNull⟩,
      .filter ⟨"name", .compare .notEqual (.text "ann")⟩,
      .filter ⟨"age", .compare .less (.int 65)⟩]
    let q := described "people" calls
    let ordered := q.filters.flatMap ColumnFilter.predicates
    let st : Statement := ⟨"SELECT id FROM people AS main_table WHERE (age > ?) AND " ++
      "(age IS NOT NULL) AND (age < ?) AND (name LIKE ?) AND (name != ?) AND ((id IN (?,?)));",
      [.int 18, .int 65, .text "a%", .text "ann", .int 1, .int 2]⟩
    q.build false = .ok st ∧ q.filters.map (·.column) = ["age", "name"] ∧
      q.OpensWith false st ordered := by
  intro calls q ordered st
  obtain ⟨-, hcolumns, -, -, -, -, hbuild⟩ := described_groups_calls "people" calls
  have h : q.build false = .ok st := by decide +kernel
  refine ⟨h, ?_, hbuild h⟩
  exact hcolumns.trans (by decide +kernel)

end Query

end BoundSql
