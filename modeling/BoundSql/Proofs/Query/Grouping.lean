import BoundSql.Proofs.Agreement
import BoundSql.Proofs.Query.Alignment
import BoundSql.Proofs.Text.Nesting

/-! # Grouping of conditions

Each condition stands in parentheses of its own, and so does each group. The text after WHERE, split
at AND outside parentheses, has one piece for each condition of the filters and one for each group
that is not empty. Without its parentheses and split at OR outside the others, the piece of a group
has one piece for each member.
-/

namespace BoundSql

open Text (Balanced Bracketed splitOutside unwrap)

theorem balanced_parenthesized {s t : String} (hs : Balanced s) (ht : Balanced t) :
    Balanced (s ++ " (" ++ t ++ ")") := by
  have hassoc : s ++ " (" ++ t ++ ")" = s ++ " " ++ ("(" ++ t ++ ")") := by
    rw [← String.toList_inj]
    simp
  rw [hassoc]
  exact (hs.append (by decide)).append ht.bracketed.balanced

theorem Operator.balanced_text {column : String} (hc : Balanced column) (op : Operator)
    (count : Nat) : Balanced (op.text column count) := by
  have hop : Balanced (column ++ " " ++ op.sql) :=
    (hc.append (by decide)).append (by cases op <;> decide)
  cases op with
  | isNull | isNotNull => exact hop
  | between => exact hc.append (by decide)
  | among | notAmong =>
    refine balanced_parenthesized hop (.intercalate (by decide) fun s hs => ?_)
    rw [List.eq_of_mem_replicate hs]
    decide
  | _ =>
    refine .intercalate (by decide) fun s hs => ?_
    rw [List.eq_of_mem_replicate hs]
    exact hop.append (by decide)

namespace Predicate

variable {p : Predicate} {ps : List Predicate}

theorem Formats.bracketed {text : String} (h : p.Formats text) (hc : Balanced p.column) :
    Bracketed text := by
  obtain ⟨op, count, rfl⟩ := h.eq_enclosed
  exact (op.balanced_text hc count).bracketed

theorem formats_of_fragments {f : Fragment (List String)} (h : fragments ps = .ok f) :
    List.Forall₂ Formats ps f.content := by
  obtain ⟨fs, hfs, rfl⟩ := map_eq_ok.mp h
  refine List.forall₂_map_right_iff.mpr ((mapM_eq_ok.mp hfs).flip.imp fun p f hf => ?_)
  exact formats_of_fragment hf

theorem formats_bracketed (hc : ∀ p ∈ ps, Balanced p.column) {texts : List String}
    (h : List.Forall₂ Formats ps texts) : ∀ text ∈ texts, Bracketed text := by
  induction h with
  | nil => simp
  | cons htext _ ih =>
    rw [List.forall_mem_cons] at hc ⊢
    exact ⟨htext.bracketed hc.1, ih hc.2⟩

theorem splitOutside_group (hc : ∀ p ∈ ps, Balanced p.column) {texts : List String}
    (h : List.Forall₂ Formats ps texts) (hne : ps ≠ []) :
    splitOutside " OR " (unwrap (Formatter.enclosed (" OR ".intercalate texts))) = texts := by
  have htexts : texts ≠ [] := by
    rintro rfl
    exact hne (List.forall₂_nil_right_iff.mp h)
  rw [Formatter.enclosed, Text.unwrap_parenthesized]
  exact Text.splitOutside_intercalate (by decide) (by decide) (formats_bracketed hc h) htexts

theorem bracketed_groupFragment (hc : ∀ p ∈ ps, Balanced p.column)
    {f : Fragment (Option String)} (h : groupFragment ps = .ok f) :
    ∀ text ∈ f.content, Bracketed text := by
  obtain ⟨g, hg, rfl⟩ := map_eq_ok.mp h
  have hmembers := formats_bracketed hc (formats_of_fragments hg)
  have hjoined : Balanced (" OR ".intercalate g.content) :=
    .intercalate (by decide) fun s hs => (hmembers s hs).balanced
  intro text htext
  cases ps with
  | nil => cases htext
  | cons p ps =>
    obtain rfl := Option.some.inj htext
    exact hjoined.bracketed

end Predicate

namespace Formatter

variable {b b' : Bindings} {text : String}

theorem bracketed_condition {column : String} {c : Condition} (hc : Balanced column)
    (h : (condition column c).run b = (.ok text, b')) : Bracketed text := by
  rw [run_condition] at h
  split at h
  next f hf =>
    obtain rfl := Except.ok.inj (Prod.mk.inj h).1
    exact (Predicate.formats_of_fragment (p := ⟨column, c⟩) hf).bracketed hc
  next => cases (Prod.mk.inj h).1

theorem bracketed_group {ps : List Predicate} (hc : ∀ p ∈ ps, Balanced p.column)
    (h : (group ps).run b = (.ok (some text), b')) : Bracketed text := by
  rw [run_group] at h
  split at h
  next f hf =>
    exact Predicate.bracketed_groupFragment hc hf text (Except.ok.inj (Prod.mk.inj h).1)
  next => cases (Prod.mk.inj h).1

end Formatter

namespace Query

inductive Part where
  | condition (p : Predicate)
  | group (ps : List Predicate)
  deriving DecidableEq, Repr

def Part.ofGroup : List Predicate → List Part
  | [] => []
  | ps => [group ps]

/-- The text that the formatter makes of a part, whatever is bound before. It is in parentheses of
its own, and without them the text of a group has the texts of the members between its OR. -/
def Part.Formats (x : Part) (text : String) : Prop :=
  Bracketed text ∧ match x with
    | condition p => p.Formats text
    | group ps => (∀ b, ((Formatter.group ps).run b).1 = .ok (some text)) ∧
      List.Forall₂ Predicate.Formats ps (splitOutside " OR " (unwrap text))

/-- The conditions of the filters, then the groups. -/
def parts (q : Query) : List Part :=
  (q.filters.flatMap fun f => f.predicates.map .condition) ++ q.orFilters.flatMap Part.ofGroup

def opening (q : Query) (delete : Bool) : String :=
  (if delete then "DELETE " else "SELECT ") ++ q.projection ++ " FROM " ++ q.table ++
    " AS " ++ mainAlias ++ String.join (q.joins.map joinClause)

def closing (q : Query) : String :=
  groupClause q.groupBy ++ orderClause q.order ++ limitClause q.limit ++ ";"

theorem sql_eq (q : Query) (delete : Bool) (texts : List String) :
    q.sql delete texts = q.opening delete ++ whereClause texts ++ q.closing := by
  simp only [sql, opening, closing, String.append_assoc]

theorem Part.formats_of_groupFragment {ps : List Predicate} (hc : ∀ p ∈ ps, Balanced p.column)
    {f : Fragment (Option String)} (h : Predicate.groupFragment ps = .ok f) :
    List.Forall₂ Formats (ofGroup ps) f.content.toList := by
  have hbracketed := Predicate.bracketed_groupFragment hc h
  obtain ⟨g, hg, rfl⟩ := map_eq_ok.mp h
  have hmembers := Predicate.formats_of_fragments hg
  cases ps with
  | nil => exact .nil
  | cons p ps =>
    refine .cons ⟨hbracketed _ rfl, fun b => ?_, ?_⟩ .nil
    · rw [Formatter.run_group, h]
      rfl
    · rw [Predicate.splitOutside_group hc hmembers (List.cons_ne_nil _ _)]
      exact hmembers

theorem Part.formats_of_fragments {ps : List Predicate} (hc : ∀ p ∈ ps, Balanced p.column)
    {f : Fragment (List String)} (h : Predicate.fragments ps = .ok f) :
    List.Forall₂ Formats (ps.map condition) f.content := by
  have hmembers := (List.forall₂_and_left (p := fun p : Predicate => Balanced p.column) _ _).mpr
    ⟨hc, Predicate.formats_of_fragments h⟩
  exact List.forall₂_map_left_iff.mpr (hmembers.imp fun p text h => ⟨h.2.bracketed h.1, h.2⟩)

theorem Part.bracketed {xs : List Part} {texts : List String}
    (h : List.Forall₂ Formats xs texts) : ∀ text ∈ texts, Bracketed text := by
  induction h with
  | nil => simp
  | cons h _ ih => exact List.forall_mem_cons.mpr ⟨h.1, ih⟩

/-- The texts of a query without raw expressions are those of its parts. -/
theorem formats_fragment {q : Query} (he : q.expressions = [])
    (hc : ∀ p ∈ q.predicates, Balanced p.column) {f : Fragment (List String)}
    (h : q.fragment = .ok f) : List.Forall₂ Part.Formats q.parts f.content := by
  simp only [predicates, List.forall_mem_append] at hc
  obtain ⟨fs, hfs, h⟩ := bind_eq_ok.mp h
  obtain ⟨gs, hgs, h⟩ := bind_eq_ok.mp h
  obtain rfl := Except.ok.inj h
  have hfilters : List.Forall₂ Part.Formats
      (q.filters.flatMap fun f => f.predicates.map .condition) (fs.flatMap (·.content)) := by
    have hmem := (List.forall₂_and_left (p := (· ∈ q.filters)) _ _).mpr
      ⟨fun _ h => h, (mapM_eq_ok.mp hfs).flip⟩
    refine List.rel_flatMap hmem fun filter f h => ?_
    obtain ⟨hfilter, hf⟩ := h
    exact Part.formats_of_fragments
      (fun p hp => hc.1 p (List.mem_flatMap.mpr ⟨filter, hfilter, hp⟩)) (filter.fragment_eq ▸ hf)
  have hgroups : List.Forall₂ Part.Formats (q.orFilters.flatMap Part.ofGroup)
      (gs.flatMap (·.content.toList)) := by
    have hmem := (List.forall₂_and_left (p := (· ∈ q.orFilters)) _ _).mpr
      ⟨fun _ h => h, (mapM_eq_ok.mp hgs).flip⟩
    refine List.rel_flatMap hmem fun ps f h => ?_
    obtain ⟨hps, hf⟩ := h
    exact Part.formats_of_groupFragment
      (fun p hp => hc.2 p (List.mem_flatten.mpr ⟨ps, hps, hp⟩)) hf
  simp only [parts, he, List.map_nil, List.append_nil]
  exact List.rel_append hfilters hgroups

theorem whereClause_of_ne_nil {texts : List String} (h : texts ≠ []) :
    whereClause texts = " WHERE " ++ " AND ".intercalate texts := by
  cases texts with
  | nil => exact absurd rfl h
  | cons => rfl

/-- A text of a condition or of a group on balanced columns is in parentheses of its own. So, for a
query without raw expressions, the text after WHERE has one piece for each part of the query, and
without parts there is no WHERE. -/
theorem build_grouped :
    (∀ {column : String} {c : Condition} {b b' : Bindings} {text : String}, Balanced column →
      (Formatter.condition column c).run b = (.ok text, b') → Bracketed text) ∧
    (∀ {ps : List Predicate} {b b' : Bindings} {text : String},
      (∀ p ∈ ps, Balanced p.column) → (Formatter.group ps).run b = (.ok (some text), b') →
      Bracketed text) ∧
    ∀ {q : Query} {delete : Bool} {st : Statement}, q.expressions = [] →
      (∀ p ∈ q.predicates, Balanced p.column) → q.build delete = .ok st →
      if q.parts = [] then st.sql = q.opening delete ++ q.closing
      else ∃ body, st.sql = q.opening delete ++ " WHERE " ++ body ++ q.closing ∧
        List.Forall₂ Part.Formats q.parts (splitOutside " AND " body) := by
  refine ⟨Formatter.bracketed_condition, Formatter.bracketed_group, fun {q delete st} he hc h => ?_⟩
  obtain ⟨f, hf, rfl⟩ := exists_fragment_of_build h
  have hparts := formats_fragment he hc hf
  rw [sql_eq]
  split
  next hnone =>
    rw [hnone, List.forall₂_nil_left_iff] at hparts
    rw [hparts, whereClause, String.append_empty]
  next hsome =>
    have hne : f.content ≠ [] := fun hnil => hsome (List.forall₂_nil_right_iff.mp (hnil ▸ hparts))
    refine ⟨" AND ".intercalate f.content, ?_, ?_⟩
    · rw [whereClause_of_ne_nil hne, ← String.append_assoc]
    · rwa [Text.splitOutside_intercalate (by decide) (by decide) (Part.bracketed hparts) hne]

/-- Separators of every kind inside the conditions: a range, a list of alternatives, a column that
spells AND and OR, and an empty group. -/
theorem build_grouped_of_orders :
    let note : Condition := .anyOf "like" [.text "a%", .text "b%"]
    let group : List Predicate :=
      [⟨"(a AND b OR (c))", .compare .equal (.int 1)⟩, ⟨"id", .among [.int 2]⟩]
    let q : Query := {
      table := "orders"
      select := ["id"]
      filters := [⟨"placed", [.between (.int 1) (.int 9)]⟩, ⟨"note", [note, .isNotNull]⟩]
      orFilters := [[], group]
      limit := some ⟨0, 5⟩ }
    let noteText := "(note LIKE ? OR note LIKE ?)"
    let groupText := "(((a AND b OR (c)) = ?) OR (id IN (?)))"
    let st : Statement := ⟨"DELETE id FROM orders AS main_table WHERE " ++
      "(placed BETWEEN ? AND ?) AND (note LIKE ? OR note LIKE ?) AND (note IS NOT NULL) AND " ++
      "(((a AND b OR (c)) = ?) OR (id IN (?))) LIMIT 0, 5;",
      [.int 1, .int 9, .text "a%", .text "b%", .int 1, .int 2]⟩
    (Balanced "note" ∧ (Formatter.condition "note" note).run .empty =
        (.ok noteText, ⟨[.text "a%", .text "b%"]⟩) ∧ Bracketed noteText) ∧
      ((∀ p ∈ group, Balanced p.column) ∧ (Formatter.group group).run .empty =
        (.ok (some groupText), ⟨[.int 1, .int 2]⟩) ∧ Bracketed groupText) ∧
      q.expressions = [] ∧ (∀ p ∈ q.predicates, Balanced p.column) ∧ q.build true = .ok st ∧
      q.parts.length = 4 ∧
      ∃ body, st.sql = q.opening true ++ " WHERE " ++ body ++ q.closing ∧
        List.Forall₂ Part.Formats q.parts (splitOutside " AND " body) := by
  intro note group q noteText groupText st
  have hnote : Balanced "note" := by decide
  have hnoteRun : (Formatter.condition "note" note).run .empty =
      (.ok noteText, ⟨[.text "a%", .text "b%"]⟩) := by decide +kernel
  have hgroup : ∀ p ∈ group, Balanced p.column := by decide
  have hgroupRun : (Formatter.group group).run .empty =
      (.ok (some groupText), ⟨[.int 1, .int 2]⟩) := by decide +kernel
  have hc : ∀ p ∈ q.predicates, Balanced p.column := by decide
  have h : q.build true = .ok st := by decide +kernel
  exact ⟨⟨hnote, hnoteRun, build_grouped.1 hnote hnoteRun⟩,
    ⟨hgroup, hgroupRun, build_grouped.2.1 hgroup hgroupRun⟩,
    rfl, hc, h, by decide, build_grouped.2.2 rfl hc h⟩

end Query

end BoundSql
