import BoundSql.Proofs.Json.Document

/-! # Documents of conditions

A value that is no double is recovered from its JSON form, and so is an operand of such values. A
single blob is the exception: its form is an array, and an array is a list before it is a blob.
-/

namespace BoundSql

open Json (Recovers Plain)

theorem mapM_map_eq_some {α β : Type} {write : α → β} {read : β → Option α} {as : List α}
    (h : ∀ a ∈ as, read (write a) = some a) : (as.map write).mapM read = some as := by
  induction as with
  | nil => rfl
  | cons a as ih =>
    rw [List.forall_mem_cons] at h
    rw [List.map_cons, List.mapM_cons, h.1, ih h.2]
    rfl

namespace Value

def isFloat : Value → Bool
  | float _ => true
  | _ => false

theorem fitsInt64_toInt (n : Int64) : fitsInt64 n.toInt := by
  have hlow := n.le_toInt
  have hhigh := n.toInt_lt
  simp only [fitsInt64, Bool.and_eq_true, decide_eq_true_eq]
  omega

theorem byteOfJson?_ofNat (b : UInt8) : byteOfJson? (.ofNat b.toNat) = some b := by
  have hb := b.toNat_lt
  have hfits : 0 ≤ (b.toNat : Int) ∧ (b.toNat : Int) < 256 := by omega
  simp only [byteOfJson?, Json.ofNat, if_pos hfits, Int.toNat_natCast, UInt8.ofNat_toNat]

theorem ofJson?_toJson {v : Value} (h : ¬ v.isFloat) : ofJson? v.toJson = some v := by
  cases v with
  | null | bool | text => rfl
  | int n =>
    simp only [toJson, Json.ofInt, ofJson?, fitsInt64_toInt, if_true, Int64.ofInt_toInt]
  | float x => exact absurd rfl h
  | blob bytes =>
    rw [toJson, ofJson?, mapM_map_eq_some fun b _ => byteOfJson?_ofNat b]
    rfl

theorem plain {v : Value} (h : ¬ v.isFloat) : Plain 1 v.toJson := by
  cases v with
  | null => exact .null 1
  | bool b => exact .bool 1 b
  | int n =>
    have hlow := n.le_toInt
    have hhigh := n.toInt_lt
    exact .number 1 ⟨hlow, by omega⟩
  | float x => exact absurd rfl h
  | text s => exact .string 1 s
  | blob bytes =>
    refine .array fun j hj => ?_
    obtain ⟨b, -, rfl⟩ := List.mem_map.mp hj
    have hb := b.toNat_lt
    exact .number 0 ⟨by omega, by omega⟩

end Value

namespace Operand

structure Exact (o : Operand) : Prop where
  values : ∀ v ∈ o.values, ¬ v.isFloat
  notBlob : ∀ bytes, o ≠ .scalar (.blob bytes)

theorem ofJson?_toJson {o : Operand} (h : o.Exact) : ofJson? o.toJson = some o := by
  cases o with
  | scalar v =>
    have hv := Value.ofJson?_toJson (h.values v (List.mem_singleton_self v))
    cases v with
    | blob bytes => exact absurd rfl (h.notBlob bytes)
    | float x => exact absurd rfl (h.values _ (List.mem_singleton_self _))
    | _ => exact congrArg (Option.map scalar) hv
  | list vs =>
    have hvs := mapM_map_eq_some fun v hv => Value.ofJson?_toJson (h.values v hv)
    exact congrArg (Option.map list) hvs
  | range low high =>
    have hlow := Value.ofJson?_toJson (h.values low (by simp [values]))
    have hhigh := Value.ofJson?_toJson (h.values high (by simp [values]))
    simp [toJson, ofJson?, range?, named, hlow, hhigh]

theorem plain {o : Operand} (h : o.Exact) : Plain 2 o.toJson := by
  cases o with
  | scalar v => exact (Value.plain (h.values v (List.mem_singleton_self v))).mono (by decide)
  | list vs =>
    refine .array fun j hj => ?_
    obtain ⟨v, hv, rfl⟩ := List.mem_map.mp hj
    exact Value.plain (h.values v hv)
  | range low high =>
    have hlow := Value.plain (h.values low (by simp [values]))
    have hhigh := Value.plain (h.values high (by simp [values]))
    refine .object fun member hmember => ?_
    simp only [List.mem_cons, List.not_mem_nil, or_false] at hmember
    rcases hmember with rfl | rfl
    · exact hlow
    · exact hhigh

end Operand

namespace Condition

theorem ofJson?_toJson {c : Condition} (h : c.operand.Exact) : ofJson? c.toJson = some c := by
  rw [toJson, ofJson?, Operand.ofJson?_toJson h]
  rfl

theorem plain {c : Condition} (h : c.operand.Exact) : Plain 3 c.toJson := by
  refine .object fun member hmember => ?_
  obtain rfl := List.mem_singleton.mp hmember
  exact Operand.plain h

theorem recovers {c : Condition} (h : c.operand.Exact) :
    Recovers Json.Draft.condition c.toJson c := by
  have hoperand : Recovers Json.Draft.operand c.operand.toJson c.operand :=
    .alternative (Operand.ofJson?_toJson h)
  have hmember : Recovers (Json.Draft.singleMember Json.Draft.conditionTitle Json.Draft.operand)
      c.toJson (c.operator, c.operand) := .singleMember hoperand
  intro d hd
  rw [Json.Draft.condition, hmember d hd]
  rfl

end Condition

end BoundSql
