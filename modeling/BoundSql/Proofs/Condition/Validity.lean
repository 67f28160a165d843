import BoundSql.Proofs.Condition.Fragment
import BoundSql.Proofs.Problems

/-! # Valid conditions

Whether a condition has a text depends on its keyword and on the form of its operand. A condition
without a text has one problem: its keyword is not known, or its operand does not fit.
-/

namespace BoundSql

namespace Condition

def keywords : List String :=
  ["eq", "neq", "gt", "lt", "gteq", "lteq", "like", "nlike", "in", "nin", "null", "not-null",
    "date"]

/-- A test for null takes any operand, a date takes a range, and every other keyword takes one value
or a list of one value at least. -/
def Fits (keyword : String) (operand : Operand) : Prop :=
  if keyword = "null" ∨ keyword = "not-null" then True
  else if keyword = "date" then operand.isRange = true
  else operand.filled = true

def Valid (c : Condition) : Prop :=
  c.operator ∈ keywords ∧ Fits c.operator c.operand

instance (keyword : String) (operand : Operand) : Decidable (Fits keyword operand) :=
  inferInstanceAs (Decidable (ite (keyword = "null" ∨ keyword = "not-null") True
    (ite (keyword = "date") (operand.isRange = true) (operand.filled = true))))

instance (c : Condition) : Decidable c.Valid :=
  inferInstanceAs (Decidable (_ ∧ _))

def fault (column : String) (c : Condition) : Error :=
  if c.operator ∈ keywords then .invalidOperand c.operator column
  else .unsupportedOperator c.operator

theorem fits_keyword_iff (op : Operator) (operand : Operand) :
    Fits op.keyword operand ↔ op.accepts operand := by
  cases op <;> simp [Fits, Operator.keyword, Operator.accepts]

theorem keywords_eq : keywords = Operator.all.map Operator.keyword := rfl

theorem ofKeyword?_eq_none_iff {keyword : String} :
    Operator.ofKeyword? keyword = none ↔ keyword ∉ keywords := by
  simp [Operator.ofKeyword?, keywords_eq]

/-- A condition has a fragment if it is valid, and fails with its fault otherwise. -/
theorem settled_fragment (column : String) (c : Condition) :
    Settled (fun _ => True) (problemIf (¬ c.Valid) (c.fault column)) (c.fragment column) := by
  cases hop : Operator.ofKeyword? c.operator with
  | none =>
    have hunknown := ofKeyword?_eq_none_iff.mp hop
    rw [fragment, hop, problemIf, if_pos fun h => hunknown h.1, fault, if_neg hunknown]
    exact .error _ _
  | some op =>
    have hknown : c.operator ∈ keywords :=
      not_not.mp fun h => by simp [ofKeyword?_eq_none_iff.mpr h] at hop
    have hvalid : c.Valid ↔ op.accepts c.operand := by
      rw [Valid, Operator.ofKeyword?_eq_some hop, fits_keyword_iff]
      exact and_iff_right (Operator.ofKeyword?_eq_some hop ▸ hknown)
    simp only [fragment, hop, problemIf, hvalid, fault, if_pos hknown, ite_not]
    split
    · exact .ok trivial
    · exact .error _ _

end Condition

namespace Predicate

def problems (p : Predicate) : List Error :=
  problemIf (¬ p.condition.Valid) (p.condition.fault p.column)

theorem settled_fragment (p : Predicate) :
    Settled (fun _ => True) p.problems p.fragment :=
  p.condition.settled_fragment p.column

theorem settled_fragments (ps : List Predicate) :
    Settled (fun _ => True) (ps.flatMap problems) (fragments ps) :=
  (Settled.mapM fun p _ => p.settled_fragment).map fun _ _ => trivial

theorem settled_groupFragment (ps : List Predicate) :
    Settled (fun _ => True) (ps.flatMap problems) (groupFragment ps) :=
  (settled_fragments ps).map fun _ _ => trivial

end Predicate

end BoundSql
