import BoundSql.Proofs.Text.Literal
import BoundSql.Proofs.Value.Inline
import BoundSql.Query.Build

/-! # Question marks in literals

A question mark in a literal of a text is no placeholder, and no value is sent for it. A rendering
that spares the literals would copy it and give the values to the other marks. The rendering of a
statement does so exactly as long as the literals have no mark at which there is a value left.
-/

namespace BoundSql

open Text.Literal (Place scan scan_cons)

namespace Statement

/-- The text with its placeholders outside literals replaced, in order, while there are values left.
What a literal holds is copied. -/
def spareChars : Place → List Char → List Value → List Char
  | _, [], _ => []
  | place, c :: cs, vs =>
    if c = '?' ∧ place.shows c then
      match vs with
      | [] => '?' :: spareChars (place.step c).1 cs []
      | v :: vs => v.inline.toList ++ spareChars (place.step c).1 cs vs
    else c :: spareChars (place.step c).1 cs vs

def spared (st : Statement) : String :=
  String.ofList (spareChars .outside st.sql.toList st.binds)

theorem spareChars_of_not {place : Place} {c : Char} (h : ¬ (c = '?' ∧ place.shows c))
    (cs : List Char) (vs : List Value) :
    spareChars place (c :: cs) vs = c :: spareChars (place.step c).1 cs vs := by
  rw [spareChars.eq_def]
  exact if_neg h

theorem renderChars_nil (cs : List Char) : renderChars cs [] = cs := by
  induction cs with
  | nil => rfl
  | cons c cs ih =>
    by_cases hc : c = '?'
    · rw [hc, renderChars, if_pos rfl, ih]
    · rw [renderChars_of_ne hc, ih]

theorem spareChars_nil (place : Place) (cs : List Char) : spareChars place cs [] = cs := by
  induction cs generalizing place with
  | nil => rfl
  | cons c cs ih =>
    by_cases h : c = '?' ∧ place.shows c
    · rw [spareChars, if_pos h, ih, h.1]
    · rw [spareChars_of_not h, ih]

theorem forall_marks_cons {c : Char} {cs : List Char} {P : List Char → Prop} :
    (∀ before behind, c :: cs = before ++ '?' :: behind → P before) ↔
      (c = '?' → P []) ∧ ∀ before behind, cs = before ++ '?' :: behind → P (c :: before) := by
  constructor
  · refine fun h => ⟨fun hc => h [] cs (by rw [hc]; rfl), fun before behind hcs => ?_⟩
    exact h (c :: before) behind (by rw [hcs]; rfl)
  · rintro ⟨hfirst, hrest⟩ before behind hcs
    cases before with
    | nil => exact hfirst (List.cons.inj hcs).1
    | cons d before =>
      obtain ⟨rfl, htail⟩ := List.cons.inj hcs
      exact hrest before behind htail

/-- The rendering spares the literals exactly if no mark in a literal has fewer marks in front of it
than there are values. -/
theorem renderChars_eq_spareChars_iff (place : Place) (cs : List Char) (vs : List Value) :
    renderChars cs vs = spareChars place cs vs ↔
      ∀ before behind, cs = before ++ '?' :: behind → before.count '?' < vs.length →
        (scan place before).2.shows '?' := by
  induction cs generalizing place vs with
  | nil => simp [renderChars, spareChars]
  | cons c cs ih =>
    rw [forall_marks_cons]
    by_cases hc : c = '?'
    · subst hc
      cases vs with
      | nil => simp [renderChars_nil, spareChars_nil]
      | cons v vs =>
        have hrest (before : List Char) : before.count '?' + 1 < (v :: vs).length ↔
            before.count '?' < vs.length := Nat.add_lt_add_iff_right
        simp only [List.count_cons_self, hrest, scan_cons]
        by_cases hshows : place.shows '?'
        · rw [renderChars, if_pos rfl, spareChars, if_pos ⟨rfl, hshows⟩, List.append_cancel_left_eq,
            ih]
          simp [scan, hshows]
        · -- The value stands where the mark should be.
          rw [renderChars, if_pos rfl, spareChars_of_not (by simp [hshows])]
          simp [scan, hshows, v.inline_append_ne_mark]
    · rw [renderChars_of_ne hc, spareChars_of_not (by simp [hc]), List.cons.injEq, ih]
      simp [hc, scan_cons]

/-- Whether the rendering of a statement spares its literals: exactly if every question mark of the
text that has fewer marks in front of it than there are values is outside all literals. With every
list of values it does so exactly if all marks of the text are outside literals. -/
theorem render_spares_iff (sql : String) :
    (∀ vs : List Value, render ⟨sql, vs⟩ = spared ⟨sql, vs⟩ ↔
      ∀ before behind, sql.toList = before ++ '?' :: behind → before.count '?' < vs.length →
        (scan .outside before).2.shows '?') ∧
    ((∀ vs : List Value, render ⟨sql, vs⟩ = spared ⟨sql, vs⟩) ↔
      ∀ before behind, sql.toList = before ++ '?' :: behind →
        (scan .outside before).2.shows '?') := by
  have hiff (vs : List Value) : render ⟨sql, vs⟩ = spared ⟨sql, vs⟩ ↔
      ∀ before behind, sql.toList = before ++ '?' :: behind → before.count '?' < vs.length →
        (scan .outside before).2.shows '?' := by
    rw [render, spared, String.ofList_inj]
    exact renderChars_eq_spareChars_iff .outside sql.toList vs
  refine ⟨hiff, fun h before behind hsql => ?_, fun h vs => ?_⟩
  · refine (hiff (List.replicate (before.count '?' + 1) .null)).mp (h _) before behind hsql ?_
    rw [List.length_replicate]
    exact Nat.lt_succ_self _
  · exact (hiff vs).mpr fun before behind hsql _ => h before behind hsql

/-- The mark in the literal of a join takes the value of the condition behind it. -/
theorem quoted_mark_takes_value :
    let q := (Query.new "notes").selecting ["id"]
      |>.join ⟨.inner, "tags", "t", "t.mark = '?'"⟩
      |>.filter "age" (.compare .equal (.int 18))
    let st : Statement := ⟨"SELECT id FROM notes AS main_table INNER JOIN tags AS t " ++
      "ON t.mark = '?' WHERE (age = ?);", [.int 18]⟩
    q.build false = .ok st ∧
      st.render = "SELECT id FROM notes AS main_table INNER JOIN tags AS t " ++
        "ON t.mark = '18' WHERE (age = ?);" ∧
      st.spared = "SELECT id FROM notes AS main_table INNER JOIN tags AS t " ++
        "ON t.mark = '?' WHERE (age = 18);" ∧
      st.render ≠ st.spared := by
  decide +kernel

end Statement

end BoundSql
