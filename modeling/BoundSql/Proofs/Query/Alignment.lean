import BoundSql.Proofs.Agreement
import BoundSql.Proofs.Condition.Placeholder
import BoundSql.Proofs.Query.Fragment

/-! # Alignment of placeholders and values

A statement is read as a row of pieces. A piece that a condition owns is the text of that condition
and has a placeholder for each value that the condition supplies; any other piece has none. As the
values are bound in the order of the owners, a placeholder always meets a value of its own
condition.
-/

namespace BoundSql

/-- A stretch of a statement, and the predicate whose text it is. -/
structure Piece where
  text : String
  owner : Option Predicate

namespace Piece

def supplied (x : Piece) : List Value :=
  x.owner.elim [] (·.condition.supplied)

/-- A piece is sound if it is the text of its owner, with a placeholder for each value that the
owner supplies and no other. -/
structure Sound (x : Piece) : Prop where
  formats : ∀ p, x.owner = some p → p.Formats x.text
  marks : marks x.text = x.supplied.length

def join (xs : List Piece) : String :=
  String.join (xs.map (·.text))

@[simp] theorem join_append (xs ys : List Piece) : join (xs ++ ys) = join xs ++ join ys := by
  simp [join]

theorem marks_join {xs : List Piece} (h : ∀ x ∈ xs, x.Sound) :
    BoundSql.marks (join xs) = (xs.flatMap supplied).length := by
  induction xs with
  | nil => rfl
  | cons x xs ih =>
    rw [List.forall_mem_cons] at h
    have hx : join (x :: xs) = x.text ++ join xs := by simp [join]
    rw [hx, marks_append, ih h.2, h.1.marks, List.flatMap_cons, List.length_append]

theorem flatMap_supplied (xs : List Piece) :
    xs.flatMap supplied = (xs.filterMap (·.owner)).flatMap (·.condition.supplied) := by
  induction xs with
  | nil => rfl
  | cons x xs ih =>
    rcases x with ⟨text, _ | p⟩ <;> simp [supplied, ih]

theorem exists_of_getElem? {xs : List Piece} (h : ∀ x ∈ xs, x.Sound) {k : Nat} {v : Value}
    (hk : (xs.flatMap supplied)[k]? = some v) :
    ∃ before x after, xs = before ++ x :: after ∧ BoundSql.marks (join before) ≤ k ∧
      k < BoundSql.marks (join before) + BoundSql.marks x.text ∧
      x.supplied[k - BoundSql.marks (join before)]? = some v := by
  induction xs generalizing k with
  | nil => simp at hk
  | cons x xs ih =>
    rw [List.forall_mem_cons] at h
    rw [List.flatMap_cons] at hk
    by_cases hlt : k < x.supplied.length
    · rw [List.getElem?_append_left hlt] at hk
      refine ⟨[], x, xs, rfl, Nat.zero_le k, ?_, hk⟩
      rw [h.1.marks]
      exact Nat.lt_of_lt_of_le hlt (Nat.le_add_left _ _)
    · -- The value comes from a later piece, whose place counts from behind this one.
      rw [List.getElem?_append_right (Nat.le_of_not_lt hlt)] at hk
      obtain ⟨before, y, after, rfl, hle, hlt', hv⟩ := ih h.2 hk
      have hj : BoundSql.marks (join (x :: before)) =
          x.supplied.length + BoundSql.marks (join before) := by
        rw [← h.1.marks, ← marks_append]
        simp [join]
      refine ⟨x :: before, y, after, rfl, ?_, ?_, ?_⟩
      · omega
      · omega
      · rwa [hj, Nat.sub_add_eq]

end Piece

def Composed (s : String) (ps : List Predicate) : Prop :=
  ∃ xs : List Piece, Piece.join xs = s ∧ xs.filterMap (·.owner) = ps ∧ ∀ x ∈ xs, x.Sound

namespace Composed

variable {s t : String} {ps qs : List Predicate}

theorem of_marks (h : marks s = 0) : Composed s [] :=
  ⟨[⟨s, none⟩], by simp [Piece.join], rfl, by simpa using ⟨by simp, h⟩⟩

theorem of_formats {p : Predicate} (hf : p.Formats s)
    (hm : marks s = p.condition.supplied.length) : Composed s [p] :=
  ⟨[⟨s, some p⟩], by simp [Piece.join], rfl, by simpa using ⟨by simpa using hf, hm⟩⟩

theorem append (hs : Composed s ps) (ht : Composed t qs) : Composed (s ++ t) (ps ++ qs) := by
  obtain ⟨xs, rfl, rfl, hx⟩ := hs
  obtain ⟨ys, rfl, rfl, hy⟩ := ht
  refine ⟨xs ++ ys, Piece.join_append xs ys, List.filterMap_append, fun x h => ?_⟩
  exact (List.mem_append.mp h).elim (hx x) (hy x)

theorem append_of_marks (hs : Composed s ps) (ht : marks t = 0) : Composed (s ++ t) ps := by
  simpa using hs.append (of_marks ht)

theorem of_marks_append (hs : marks s = 0) (ht : Composed t ps) : Composed (s ++ t) ps := by
  simpa using (of_marks hs).append ht

theorem enclosed (h : Composed s ps) : Composed (Formatter.enclosed s) ps :=
  ((of_marks (by decide)).append h |>.append_of_marks (by decide))

end Composed

inductive ComposedAll : List String → List Predicate → Prop
  | nil : ComposedAll [] []
  | cons {s : String} {ss : List String} {ps qs : List Predicate} (hs : Composed s ps)
    (hss : ComposedAll ss qs) : ComposedAll (s :: ss) (ps ++ qs)

namespace ComposedAll

variable {ss ts : List String} {ps qs : List Predicate}

theorem append (hs : ComposedAll ss ps) (ht : ComposedAll ts qs) :
    ComposedAll (ss ++ ts) (ps ++ qs) := by
  induction hs with
  | nil => exact ht
  | cons h _ ih => rw [List.cons_append, List.append_assoc]; exact .cons h ih

theorem of_marks (h : ∀ s ∈ ss, marks s = 0) : ComposedAll ss [] := by
  induction ss with
  | nil => exact .nil
  | cons s ss ih =>
    rw [List.forall_mem_cons] at h
    exact .cons (.of_marks h.1) (ih h.2)

theorem intercalate {sep : String} (hsep : marks sep = 0) (h : ComposedAll ss ps) :
    Composed (sep.intercalate ss) ps := by
  induction h with
  | nil => simpa using Composed.of_marks rfl
  | @cons s ss ps qs hs hss ih =>
    cases hss with
    | nil => simpa using hs
    | cons ht htt =>
      rw [String.intercalate_cons_cons]
      exact (hs.append_of_marks hsep).append ih

end ComposedAll

/-- Texts and values that come from predicates, one after the other. -/
structure Carried (ss : List String) (vs : List Value) (ps : List Predicate) : Prop where
  texts : ComposedAll ss ps
  values : vs = ps.flatMap (·.condition.supplied)

theorem Carried.nil : Carried [] [] [] :=
  ⟨.nil, rfl⟩

theorem Carried.append {ss ts : List String} {vs ws : List Value} {ps qs : List Predicate}
    (h : Carried ss vs ps) (k : Carried ts ws qs) : Carried (ss ++ ts) (vs ++ ws) (ps ++ qs) :=
  ⟨h.texts.append k.texts, by rw [h.values, k.values, List.flatMap_append]⟩

theorem Carried.flatMap {α β : Type} {g : α → Except Error (Fragment β)} (texts : β → List String)
    (owners : α → List Predicate) {l : List α}
    (hg : ∀ a ∈ l, ∀ f, g a = .ok f → Carried (texts f.content) f.binds (owners a))
    {fs : List (Fragment β)} (h : l.mapM g = .ok fs) :
    Carried (fs.flatMap (texts ·.content)) (fs.flatMap (·.binds)) (l.flatMap owners) := by
  replace h := mapM_eq_ok.mp h
  induction h with
  | nil => exact .nil
  | cons hf _ ih =>
    rw [List.forall_mem_cons] at hg
    exact (hg.1 _ hf).append (ih hg.2)

namespace Predicate

variable {p : Predicate} {ps : List Predicate}

theorem carried_fragment (hc : marks p.column = 0) {f : Fragment String}
    (h : p.fragment = .ok f) : Carried [f.content] f.binds [p] := by
  have hbinds : f.binds = p.condition.supplied := Condition.binds_fragment h
  have hcomposed := Composed.of_formats (formats_of_fragment h) (Condition.marks_fragment hc h)
  exact ⟨.cons hcomposed .nil, by simp [hbinds]⟩

theorem carried_fragments (hc : ∀ p ∈ ps, marks p.column = 0) {f : Fragment (List String)}
    (h : fragments ps = .ok f) : Carried f.content f.binds ps := by
  obtain ⟨fs, hfs, rfl⟩ := map_eq_ok.mp h
  have hf := Carried.flatMap ([·]) ([·]) (fun p hp _ hf => carried_fragment (hc p hp) hf) hfs
  rw [List.flatMap_singleton', ← List.map_eq_flatMap] at hf
  exact hf

theorem carried_groupFragment (hc : ∀ p ∈ ps, marks p.column = 0)
    {f : Fragment (Option String)} (h : groupFragment ps = .ok f) :
    Carried f.content.toList f.binds ps := by
  obtain ⟨fs, hf, rfl⟩ := map_eq_ok.mp h
  have hfs := carried_fragments hc hf
  refine ⟨?_, hfs.values⟩
  cases ps with
  | nil => exact .nil
  | cons p ps =>
    have hm : marks " OR " = 0 := by decide
    simpa using ComposedAll.cons (hfs.texts.intercalate hm).enclosed .nil

end Predicate

def ColumnFilter.predicates (f : ColumnFilter) : List Predicate :=
  f.conditions.map (⟨f.column, ·⟩)

theorem ColumnFilter.fragment_eq (f : ColumnFilter) :
    f.fragment = Predicate.fragments f.predicates := by
  rw [fragment, Predicate.fragments, predicates, List.mapM_map]
  rfl

namespace Query

variable {q : Query}

/-- The conditions of a query in the order of its fragments: those of the filters, then those of the
groups. -/
def predicates (q : Query) : List Predicate :=
  q.filters.flatMap ColumnFilter.predicates ++ q.orFilters.flatten

/-- A query that pastes no placeholder into its statement. -/
structure Unmarked (q : Query) : Prop where
  table : marks q.table = 0
  select : ∀ c ∈ q.select, marks c = 0
  distinct : ∀ d, q.distinct = some d → marks d = 0
  joins : ∀ j ∈ q.joins, marks j.table = 0 ∧ marks j.aliasName = 0 ∧ marks j.on = 0
  columns : ∀ p ∈ q.predicates, marks p.column = 0
  expressions : ∀ e ∈ q.expressions, marks e.column = 0 ∧ marks e.operator = 0 ∧ marks e.value = 0
  groupBy : ∀ g, q.groupBy = some g → marks g = 0
  order : ∀ o ∈ q.order, marks o.column = 0

theorem carried_fragment (hq : q.Unmarked) {f : Fragment (List String)} (h : q.fragment = .ok f) :
    Carried f.content f.binds q.predicates := by
  have hc := hq.columns
  simp only [predicates, List.forall_mem_append] at hc
  obtain ⟨fs, hfs, h⟩ := bind_eq_ok.mp h
  obtain ⟨gs, hgs, h⟩ := bind_eq_ok.mp h
  obtain rfl := Except.ok.inj h
  have hf := Carried.flatMap id ColumnFilter.predicates (fun f hf _ h =>
    Predicate.carried_fragments
      (fun p hp => hc.1 p (List.mem_flatMap.mpr ⟨f, hf, hp⟩)) (f.fragment_eq ▸ h)) hfs
  have hg := Carried.flatMap Option.toList id (fun ps hps _ h =>
    Predicate.carried_groupFragment
      (fun p hp => hc.2 p (List.mem_flatten.mpr ⟨ps, hps, hp⟩)) h) hgs
  have he : ComposedAll (q.expressions.map expressionText) [] := by
    refine .of_marks (List.forall_mem_map.mpr fun e h => ?_)
    simp [expressionText, hq.expressions e h, show marks " " = 0 by decide]
  have hfg := (hf.append hg).append ⟨he, rfl⟩
  rwa [List.flatMap_nil, List.append_nil, List.append_nil, List.flatMap_id] at hfg

theorem marks_projection (hq : q.Unmarked) : marks q.projection = 0 := by
  have hc : marks (", ".intercalate q.select) = 0 :=
    marks_intercalate_eq_zero (by decide) hq.select
  unfold projection
  split
  next d hd =>
    split
    · exact hc
    · simp [hc, hq.distinct d hd, show marks "DISTINCT " = 0 ∧ marks ", " = 0 by decide]
  next => exact hc

theorem marks_joinClause (hq : q.Unmarked) {j : Join} (h : j ∈ q.joins) :
    marks (joinClause j) = 0 := by
  have hk : marks j.kind.sql = 0 := by cases j.kind <;> decide
  simp [joinClause, hk, hq.joins j h,
    show marks " " = 0 ∧ marks " JOIN " = 0 ∧ marks " AS " = 0 ∧ marks " ON " = 0 by decide]

theorem marks_groupClause (hq : q.Unmarked) : marks (groupClause q.groupBy) = 0 := by
  unfold groupClause
  split
  next g hg => simp [hq.groupBy g hg, show marks " GROUP BY " = 0 by decide]
  next => rfl

theorem marks_orderClause (hq : q.Unmarked) : marks (orderClause q.order) = 0 := by
  have he : ∀ s ∈ q.order.map orderEntry, marks s = 0 := by
    refine List.forall_mem_map.mpr fun o h => ?_
    have hd : marks o.direction.sql = 0 := by cases o.direction <;> decide
    simp [orderEntry, hd, hq.order o h, show marks " " = 0 by decide]
  unfold orderClause
  split
  · rfl
  · rw [marks_append, marks_intercalate_eq_zero (by decide) he]
    decide

theorem marks_limitClause (limit : Option Limit) : marks (limitClause limit) = 0 := by
  cases limit with
  | none => rfl
  | some l =>
    simp [limitClause, marks_repr, show marks " LIMIT " = 0 ∧ marks ", " = 0 by decide]

theorem composed_whereClause {texts : List String} {ps : List Predicate}
    (h : ComposedAll texts ps) : Composed (whereClause texts) ps := by
  cases h with
  | nil => exact .of_marks rfl
  | cons hs hss =>
    have hm : marks " AND " = 0 := by decide
    exact .of_marks_append (by decide) (ComposedAll.intercalate hm (.cons hs hss))

/-- The conditions own the statement of a query: around their texts there is no placeholder. -/
theorem composed_sql (hq : q.Unmarked) (delete : Bool) {texts : List String}
    {ps : List Predicate} (h : ComposedAll texts ps) : Composed (q.sql delete texts) ps := by
  have hj : marks (String.join (q.joins.map joinClause)) = 0 :=
    marks_join_eq_zero (List.forall_mem_map.mpr fun _ h => marks_joinClause hq h)
  have hd : marks (if delete then "DELETE " else "SELECT ") = 0 := by cases delete <;> decide
  have hm : marks " FROM " = 0 ∧ marks " AS " = 0 ∧ marks mainAlias = 0 := by decide
  refine .append_of_marks (.append_of_marks (.append_of_marks (.append_of_marks
    (.of_marks_append ?_ (composed_whereClause h)) (marks_groupClause hq))
    (marks_orderClause hq)) (marks_limitClause q.limit)) (by decide)
  simp [hd, hm, hj, hq.table, marks_projection hq]

/-- A statement whose placeholders are aligned with its values: it is a row of sound pieces, owned
by the conditions of the query in order, and the piece with some placeholder supplies the value at
its place. -/
structure Aligned (q : Query) (st : Statement) : Prop where
  count : marks st.sql = st.binds.length
  values : st.binds = q.predicates.flatMap (·.condition.supplied)
  pieces : ∃ xs : List Piece, Piece.join xs = st.sql ∧ xs.filterMap (·.owner) = q.predicates ∧
    (∀ x ∈ xs, x.Sound) ∧
    ∀ k v, st.binds[k]? = some v → ∃ before x after, xs = before ++ x :: after ∧
      marks (Piece.join before) ≤ k ∧ k < marks (Piece.join before) + marks x.text ∧
      x.supplied[k - marks (Piece.join before)]? = some v

/-- The statement of a query that pastes no placeholder has its placeholders aligned with its
values. -/
theorem build_aligned (hq : q.Unmarked) {delete : Bool} {st : Statement}
    (h : q.build delete = .ok st) : q.Aligned st := by
  rw [build_eq] at h
  split at h
  · cases h
  split at h
  · cases h
  cases hf : q.fragment with
  | error e => rw [hf] at h; cases h
  | ok f =>
    rw [hf] at h
    cases h
    have hc := carried_fragment hq hf
    obtain ⟨xs, hsql, howners, hsound⟩ := composed_sql hq delete hc.texts
    have hbinds : f.binds = xs.flatMap Piece.supplied := by
      rw [Piece.flatMap_supplied, howners, hc.values]
    refine ⟨?_, hc.values, ⟨xs, hsql, howners, hsound, fun k v hk => ?_⟩⟩
    · change marks (q.sql delete f.content) = f.binds.length
      rw [← hsql, hbinds, Piece.marks_join hsound]
    · exact Piece.exists_of_getElem? hsound (hbinds ▸ hk)

/-- A range, a test that binds nothing and a group with a list, side by side. -/
theorem build_aligned_of_accounts :
    let q : Query := {
      table := "accounts"
      select := ["id", "name"]
      distinct := some "id"
      filters := [⟨"age", [.between (.int 18) (.int 65), .compare .notEqual (.int 40)]⟩,
        ⟨"closed", [.isNull]⟩]
      orFilters :=
        [[⟨"role", .among [.text "a?", .null]⟩, ⟨"name", .anyOf "like" [.text "x%"]⟩], []]
      order := [⟨"id", .descending⟩]
      limit := some ⟨20, 10⟩ }
    let st : Statement := ⟨"SELECT id, name FROM accounts AS main_table " ++
      "WHERE (age BETWEEN ? AND ?) AND (age != ?) AND (closed IS NULL) AND " ++
      "((role IN (?,?)) OR (name LIKE ?)) ORDER BY id DESC LIMIT 20, 10;",
      [.int 18, .int 65, .int 40, .text "a?", .null, .text "x%"]⟩
    q.Unmarked ∧ q.build false = .ok st ∧ q.Aligned st := by
  intro q st
  have hq : q.Unmarked := by constructor <;> decide
  have h : q.build false = .ok st := by decide +kernel
  exact ⟨hq, h, build_aligned hq h⟩

end Query

end BoundSql
