import BoundSql.Proofs.Condition.Fragment
import Mathlib.Algebra.GroupWithZero.Nat

/-! # Placeholders of conditions

The text of a condition has a placeholder for each value that the condition supplies, as long as its
column has none. A test for null supplies no value, whatever its operand is.
-/

namespace BoundSql

def marks (s : String) : Nat :=
  s.toList.count '?'

@[simp] theorem marks_append (s t : String) : marks (s ++ t) = marks s + marks t := by
  simp [marks]

@[simp] theorem marks_empty : marks "" = 0 := rfl

theorem marks_join (ss : List String) : marks (String.join ss) = (ss.map marks).sum := by
  induction ss with
  | nil => rfl
  | cons s ss ih => simp [ih]

theorem marks_intercalate {sep : String} (hsep : marks sep = 0) (ss : List String) :
    marks (sep.intercalate ss) = (ss.map marks).sum := by
  induction ss with
  | nil => simp
  | cons s ss ih =>
    cases ss with
    | nil => simp
    | cons t ss => rw [String.intercalate_cons_cons]; simp_all

theorem marks_join_eq_zero {ss : List String} (h : ∀ s ∈ ss, marks s = 0) :
    marks (String.join ss) = 0 := by
  simpa [marks_join, List.sum_eq_zero_iff_forall_eq_nat] using h

theorem marks_intercalate_eq_zero {sep : String} {ss : List String} (hsep : marks sep = 0)
    (h : ∀ s ∈ ss, marks s = 0) : marks (sep.intercalate ss) = 0 := by
  simpa [marks_intercalate hsep, List.sum_eq_zero_iff_forall_eq_nat] using h

theorem marks_repr (n : Nat) : marks n.repr = 0 := by
  refine List.count_eq_zero.mpr fun h => ?_
  rw [Nat.toList_repr] at h
  exact absurd (Nat.isDigit_of_mem_toDigits (by decide) (by decide) h) (by decide)

theorem marks_enclosed (s : String) : marks (Formatter.enclosed s) = marks s := by
  have h : marks "(" = 0 ∧ marks ")" = 0 := by decide
  simp [Formatter.enclosed, h]

theorem Operator.marks_sql (op : Operator) : marks op.sql = 0 := by
  cases op <;> decide

theorem Operand.length_of_isRange {operand : Operand} (h : operand.isRange) :
    operand.values.length = 2 := by
  cases operand <;> simp_all [isRange, values]

/-- The text of an operator has a placeholder for each value that the operator takes. -/
theorem Operator.marks_text {column : String} (hc : marks column = 0) {op : Operator}
    {operand : Operand} (h : op.accepts operand) :
    marks (op.text column (op.taken operand).length) = (op.taken operand).length := by
  have hm : marks "?" = 1 ∧ marks " " = 0 ∧ marks "," = 0 ∧ marks " (" = 0 ∧ marks ")" = 0 ∧
      marks " OR " = 0 ∧ marks " ?" = 1 ∧ marks " BETWEEN ? AND ?" = 2 := by decide
  cases op with
  | isNull | isNotNull => simp [text, taken, hc, hm, marks_sql]
  | between =>
    change marks (text column between operand.values.length) = operand.values.length
    rw [Operand.length_of_isRange h]
    simp [text, hc, hm]
  | among | notAmong => simp [text, taken, hc, hm, marks_sql, marks_intercalate]
  | _ => simp [text, taken, hc, hm, marks_sql, marks_intercalate]

/-- The values that a condition supplies: none for a test for null. -/
def Condition.supplied (c : Condition) : List Value :=
  if c.operator = "null" ∨ c.operator = "not-null" then [] else c.operand.values

theorem Condition.taken_eq_supplied {c : Condition} {op : Operator}
    (h : Operator.ofKeyword? c.operator = some op) : op.taken c.operand = c.supplied := by
  rw [supplied, Operator.ofKeyword?_eq_some h]
  cases op <;> rfl

/-- The text that the formatter makes of a predicate alone, whatever is bound before, when it binds
the values that the predicate supplies. -/
def Predicate.Formats (p : Predicate) (text : String) : Prop :=
  ∀ b, (Formatter.predicate p).run b = (.ok text, ⟨b.values ++ p.condition.supplied⟩)

namespace Condition

variable {column : String} {c : Condition} {f : Fragment String}

theorem binds_fragment (h : c.fragment column = .ok f) : f.binds = c.supplied := by
  obtain ⟨op, hop, -, rfl⟩ := fragment_eq_ok.mp h
  exact taken_eq_supplied hop

theorem marks_fragment (hc : marks column = 0) (h : c.fragment column = .ok f) :
    marks f.content = c.supplied.length := by
  obtain ⟨op, hop, haccepts, rfl⟩ := fragment_eq_ok.mp h
  rw [marks_enclosed, Operator.marks_text hc haccepts, taken_eq_supplied hop]

end Condition

theorem Predicate.formats_of_fragment {p : Predicate} {f : Fragment String}
    (h : p.fragment = .ok f) : p.Formats f.content := by
  intro b
  have hrun := Formatter.run_condition p.column p.condition b
  rw [show p.condition.fragment p.column = .ok f from h] at hrun
  rw [← Condition.binds_fragment h]
  exact hrun

theorem Predicate.Formats.eq_enclosed {p : Predicate} {text : String} (h : p.Formats text) :
    ∃ (op : Operator) (count : Nat), text = Formatter.enclosed (op.text p.column count) := by
  have hrun := (Formatter.run_condition p.column p.condition .empty).symm.trans (h .empty)
  split at hrun
  next f hf =>
    obtain ⟨op, -, -, rfl⟩ := Condition.fragment_eq_ok.mp hf
    exact ⟨op, _, (Except.ok.inj (Prod.mk.inj hrun).1).symm⟩
  next => cases (Prod.mk.inj hrun).1

end BoundSql
