import BoundSql.Proofs.Query.Alignment
import BoundSql.Proofs.Query.Document

/-! # What comes back from a saved query

A single blob is written as an array, and an array is read as a list before it is read as a blob. So
an operand without doubles comes back as it was, unless it is a single blob, which comes back as the
list of its bytes. A condition with such an operand asks for other values than before.
-/

namespace BoundSql

open Json (Document Draft Keeps)

theorem map_eq_self_iff {α : Type} {f : α → α} {as : List α} :
    as.map f = as ↔ ∀ a ∈ as, f a = a := by
  conv_lhs => rhs; rw [← List.map_id as]
  exact List.map_inj_left

namespace Value

def ofByte (b : UInt8) : Value :=
  int (Int64.ofInt b.toNat)

theorem toJson_ofByte (b : UInt8) : (ofByte b).toJson = .ofNat b.toNat := by
  have hb := b.toNat_lt
  rw [ofByte, toJson, Int64.toInt_ofInt_of_le (by omega) (by omega)]
  rfl

end Value

namespace Operand

def isBlob : Operand → Bool
  | scalar (.blob _) => true
  | _ => false

/-- An operand as it comes back when it is saved. -/
def recovered : Operand → Operand
  | scalar (.blob bytes) => list (bytes.map .ofByte)
  | o => o

theorem recovered_eq_self_iff {o : Operand} : o.recovered = o ↔ ¬ o.isBlob := by
  cases o with
  | scalar v => cases v <;> simp [recovered, isBlob]
  | list | range => simp [recovered, isBlob]

theorem toJson_recovered (o : Operand) : o.recovered.toJson = o.toJson := by
  cases o with
  | scalar v =>
    cases v with
    | blob bytes =>
      simp only [recovered, toJson, Value.toJson, List.map_map]
      congr 2
      exact funext Value.toJson_ofByte
    | _ => rfl
  | list | range => rfl

theorem exact_recovered {o : Operand} (h : ∀ v ∈ o.values, ¬ v.isFloat) : o.recovered.Exact := by
  cases o with
  | scalar v =>
    cases v with
    | blob bytes =>
      refine ⟨fun v hv => ?_, nofun⟩
      obtain ⟨b, -, rfl⟩ := List.mem_map.mp hv
      exact Bool.false_ne_true
    | _ => exact ⟨h, nofun⟩
  | list vs => exact ⟨h, nofun⟩
  | range low high => exact ⟨h, nofun⟩

theorem keeps_recovered {o : Operand} (h : ∀ v ∈ o.values, ¬ v.isFloat) :
    Keeps 2 Draft.operand o.toJson o.recovered := by
  have hexact := exact_recovered h
  rw [← toJson_recovered]
  exact ⟨.alternative (ofJson?_toJson hexact), plain hexact⟩

theorem render_eq_iff {o o' : Operand} (h : ∀ v ∈ o.values, ¬ v.isFloat)
    (h' : ∀ v ∈ o'.values, ¬ v.isFloat) :
    o.toJson.render = o'.toJson.render ↔ o.recovered = o'.recovered := by
  constructor
  · intro hrender
    have hread := (keeps_recovered h).read_ofString (by decide)
    rw [hrender, (keeps_recovered h').read_ofString (by decide)] at hread
    exact (Except.ok.inj hread).symm
  · intro hrecovered
    rw [← toJson_recovered o, hrecovered, toJson_recovered]

end Operand

namespace Condition

def recovered (c : Condition) : Condition :=
  { c with operand := c.operand.recovered }

theorem recovered_eq_self_iff {c : Condition} : c.recovered = c ↔ ¬ c.operand.isBlob := by
  rw [← Operand.recovered_eq_self_iff, recovered]
  constructor
  · intro h
    exact congrArg operand h
  · intro h
    rw [h]

theorem toJson_recovered (c : Condition) : c.recovered.toJson = c.toJson := by
  rw [toJson, toJson, recovered, Operand.toJson_recovered]

theorem keeps_recovered {c : Condition} (h : ∀ v ∈ c.operand.values, ¬ v.isFloat) :
    Keeps 3 Draft.condition c.toJson c.recovered := by
  have hexact : c.recovered.operand.Exact := Operand.exact_recovered h
  rw [← toJson_recovered]
  exact ⟨recovers hexact, plain hexact⟩

/-- A condition that comes back supplies what it did before, unless that was a single blob. -/
theorem supplied_recovered_iff {c : Condition} :
    c.recovered.supplied = c.supplied ↔ c.supplied = [] ∨ ¬ c.operand.isBlob := by
  by_cases hnull : c.operator = "null" ∨ c.operator = "not-null"
  · have hnone (operand : Operand) : supplied { c with operand } = [] := if_pos hnull
    have hc : c.supplied = [] := hnone c.operand
    rw [recovered, hnone, hc]
    simp
  · have hsupplied (operand : Operand) : supplied { c with operand } = operand.values :=
      if_neg hnull
    have hc : c.supplied = c.operand.values := hsupplied c.operand
    rw [recovered, hsupplied, hc]
    rcases c with ⟨operator, v | vs | ⟨low, high⟩⟩
    · cases v with
      | blob bytes =>
        have hne : bytes.map .ofByte ≠ [Value.blob bytes] := by
          intro heq
          obtain ⟨b, -, hb⟩ := List.mem_map.mp (heq ▸ List.mem_singleton_self (Value.blob bytes))
          cases hb
        simp [Operand.recovered, Operand.values, Operand.isBlob, hne]
      | _ => simp [Operand.recovered, Operand.isBlob]
    · simp [Operand.recovered, Operand.isBlob]
    · simp [Operand.recovered, Operand.isBlob]

end Condition

namespace Predicate

def recovered (p : Predicate) : Predicate :=
  { p with condition := p.condition.recovered }

theorem recovered_eq_self_iff {p : Predicate} :
    p.recovered = p ↔ ¬ p.condition.operand.isBlob := by
  rw [← Condition.recovered_eq_self_iff]
  constructor
  · intro h
    exact congrArg condition h
  · intro h
    rw [recovered, h]

theorem groupToJson_recovered (group : List Predicate) :
    groupToJson (group.map recovered) = groupToJson group := by
  rw [groupToJson, groupToJson, List.map_map]
  congr 1
  refine List.map_congr_left fun p _ => ?_
  exact congrArg (Prod.mk p.column) p.condition.toJson_recovered

end Predicate

namespace ColumnFilter

def recovered (f : ColumnFilter) : ColumnFilter :=
  { f with conditions := f.conditions.map Condition.recovered }

theorem recovered_eq_self_iff {f : ColumnFilter} :
    f.recovered = f ↔ ∀ c ∈ f.conditions, ¬ c.operand.isBlob := by
  simp only [← Condition.recovered_eq_self_iff, ← map_eq_self_iff]
  constructor
  · intro h
    exact congrArg conditions h
  · intro h
    rw [recovered, h]

theorem toMember_recovered (f : ColumnFilter) : f.recovered.toMember = f.toMember := by
  simp only [toMember, recovered, List.map_map]
  congr 2
  exact List.map_congr_left fun c _ => c.toJson_recovered

end ColumnFilter

namespace Query

variable {q : Query}

def recovered (q : Query) : Query :=
  { q with
    filters := q.filters.map ColumnFilter.recovered
    orFilters := q.orFilters.map (·.map Predicate.recovered) }

theorem forall_mem_predicates {P : Condition → Prop} :
    (∀ p ∈ q.predicates, P p.condition) ↔
      (∀ f ∈ q.filters, ∀ c ∈ f.conditions, P c) ∧
        ∀ group ∈ q.orFilters, ∀ p ∈ group, P p.condition := by
  simp only [predicates, List.forall_mem_append, List.forall_mem_flatMap, List.forall_mem_flatten,
    ColumnFilter.predicates, List.forall_mem_map]

theorem recovered_eq_self_iff :
    q.recovered = q ↔ ∀ p ∈ q.predicates, ¬ p.condition.operand.isBlob := by
  rw [forall_mem_predicates (P := (¬ ·.operand.isBlob))]
  simp only [← ColumnFilter.recovered_eq_self_iff, ← Predicate.recovered_eq_self_iff,
    ← map_eq_self_iff]
  constructor
  · intro h
    exact ⟨congrArg filters h, congrArg orFilters h⟩
  · rintro ⟨hfilters, horFilters⟩
    rw [recovered, hfilters, horFilters]

theorem toJson_recovered (q : Query) : q.recovered.toJson = q.toJson := by
  have hfilters : filtersMember (q.filters.map ColumnFilter.recovered) =
      filtersMember q.filters := by
    cases q.filters with
    | nil => rfl
    | cons f fs =>
      simp [filtersMember, ColumnFilter.toMember_recovered, Function.comp_def]
  have horFilters : Json.memberUnlessEmpty "or_filters" Predicate.groupToJson
      (q.orFilters.map (·.map Predicate.recovered)) =
      Json.memberUnlessEmpty "or_filters" Predicate.groupToJson q.orFilters := by
    cases q.orFilters with
    | nil => rfl
    | cons group groups =>
      simp [Json.memberUnlessEmpty, Predicate.groupToJson_recovered, Function.comp_def]
  simp only [toJson, recovered, hfilters, horFilters]

theorem exact_recovered (h : ∀ p ∈ q.predicates, ∀ v ∈ p.condition.operand.values, ¬ v.isFloat) :
    q.recovered.Exact := by
  obtain ⟨hfilters, horFilters⟩ :=
    (forall_mem_predicates (P := fun c => ∀ v ∈ c.operand.values, ¬ v.isFloat)).mp h
  constructor
  · rw [recovered, List.forall_mem_map]
    intro f hf
    rw [ColumnFilter.recovered, List.forall_mem_map]
    intro c hc
    exact Operand.exact_recovered (hfilters f hf c hc)
  · rw [recovered, List.forall_mem_map]
    intro group hgroup
    rw [List.forall_mem_map]
    intro p hp
    exact Operand.exact_recovered (horFilters group hgroup p hp)

theorem keeps_recovered (h : ∀ p ∈ q.predicates, ∀ v ∈ p.condition.operand.values, ¬ v.isFloat) :
    Keeps 6 read q.toJson q.recovered := by
  have hexact := exact_recovered h
  rw [← toJson_recovered]
  exact ⟨recovers hexact, .object (plain_members hexact)⟩

/-- An operand without doubles comes back from its text as it was exactly if it is no single blob,
and two of them have one text exactly if they come back as one. A condition with such an operand
supplies the same values when it comes back exactly if it supplies none or has no single blob, and
a query of such conditions comes back as it was exactly if none of them has a single blob. -/
theorem saved_comes_back {o : Operand} (h : ∀ v ∈ o.values, ¬ v.isFloat) :
    (Document.ofString o.toJson.render).read Draft.operand = .ok o.recovered ∧
    (o.recovered = o ↔ ¬ o.isBlob) ∧
    (∀ o' : Operand, (∀ v ∈ o'.values, ¬ v.isFloat) →
      (o.toJson.render = o'.toJson.render ↔ o.recovered = o'.recovered)) ∧
    (∀ c : Condition, c.operand = o →
      (Document.ofString c.toJson.render).read Draft.condition = .ok c.recovered ∧
      (c.recovered.supplied = c.supplied ↔ c.supplied = [] ∨ ¬ o.isBlob)) ∧
    ∀ q : Query, (∀ p ∈ q.predicates, ∀ v ∈ p.condition.operand.values, ¬ v.isFloat) →
      (Document.ofString q.toJson.render).read read = .ok q.recovered ∧
      (q.recovered = q ↔ ∀ p ∈ q.predicates, ¬ p.condition.operand.isBlob) := by
  refine ⟨?_, Operand.recovered_eq_self_iff, fun o' h' => Operand.render_eq_iff h h', ?_, ?_⟩
  · exact (Operand.keeps_recovered h).read_ofString (by decide)
  · rintro c rfl
    exact ⟨(Condition.keeps_recovered h).read_ofString (by decide),
      Condition.supplied_recovered_iff⟩
  · intro q hq
    exact ⟨(keeps_recovered hq).read_ofString (by decide), recovered_eq_self_iff⟩

/-- A blob in a list comes back as a blob, and a single blob as a list. -/
theorem saved_comes_back_of_keys :
    let kept : Operand := .list [.blob [1, 2], .null, .text "a"]
    let single : Operand := .scalar (.blob [1, 2])
    let bytes : Operand := .list [.int 1, .int 2]
    let c : Condition := ⟨"eq", single⟩
    let q : Query := {
      table := "keys"
      select := ["id"]
      filters := [⟨"owner", [⟨"in", kept⟩]⟩]
      orFilters := [[⟨"digest", c⟩, ⟨"digest", .isNull⟩]] }
    (Document.ofString kept.toJson.render).read Draft.operand = .ok kept ∧
      (Document.ofString single.toJson.render).read Draft.operand = .ok bytes ∧
      single.toJson.render = bytes.toJson.render ∧
      (Document.ofString c.toJson.render).read Draft.condition = .ok ⟨"eq", bytes⟩ ∧
      (Document.ofString q.toJson.render).read read =
        .ok { q with orFilters := [[⟨"digest", ⟨"eq", bytes⟩⟩, ⟨"digest", .isNull⟩]] } := by
  intro kept single bytes c q
  have hkept : ∀ v ∈ kept.values, ¬ v.isFloat := by decide
  have hsingle : ∀ v ∈ single.values, ¬ v.isFloat := by decide
  have hbytes : ∀ v ∈ bytes.values, ¬ v.isFloat := by decide
  have hq : ∀ p ∈ q.predicates, ∀ v ∈ p.condition.operand.values, ¬ v.isFloat := by decide
  obtain ⟨hread, -, hrender, hcondition, hquery⟩ := saved_comes_back hsingle
  exact ⟨(saved_comes_back hkept).1, hread, (hrender bytes hbytes).mpr rfl, (hcondition c rfl).1,
    (hquery q hq).1⟩

/-- A blob is compared with once, and the list that comes back of it once for each byte. -/
theorem blob_comes_back_as_list :
    let o : Operand := .scalar (.blob [72, 105])
    let q := (new "keys").selecting ["id"] |>.filter "digest" ⟨"eq", o⟩
    let st : Statement :=
      ⟨"SELECT id FROM keys AS main_table WHERE (digest = ?);", [.blob [72, 105]]⟩
    let st' : Statement :=
      ⟨"SELECT id FROM keys AS main_table WHERE (digest = ? OR digest = ?);", [.int 72, .int 105]⟩
    (∀ v ∈ o.values, ¬ v.isFloat) ∧ o.toJson.render = "[72,105]" ∧
      (Document.ofString "[72,105]").read Draft.operand = .ok (.list [.int 72, .int 105]) ∧
      (Document.ofString o.toJson.render).read Draft.operand ≠ .ok o ∧
      o.toJson.render = (Operand.list [.int 72, .int 105]).toJson.render ∧
      q.build false = .ok st ∧
      ((Document.ofString q.toJson.render).read read).map (·.build false) = .ok (.ok st') := by
  intro o q st st'
  have hvalues : ∀ v ∈ o.values, ¬ v.isFloat := by decide
  have hquery : ∀ p ∈ q.predicates, ∀ v ∈ p.condition.operand.values, ¬ v.isFloat := by decide
  have hrender : o.toJson.render = "[72,105]" := by decide +kernel
  have hread : (Document.ofString o.toJson.render).read Draft.operand =
      .ok (.list [.int 72, .int 105]) := (Operand.keeps_recovered hvalues).read_ofString (by decide)
  have hback := (keeps_recovered hquery).read_ofString (by decide)
  refine ⟨hvalues, hrender, hrender ▸ hread, ?_, ?_, by decide +kernel, ?_⟩
  · have hne : Operand.list [.int 72, .int 105] ≠ .scalar (.blob [72, 105]) := nofun
    rw [hread]
    exact fun h => hne (Except.ok.inj h)
  · exact (Operand.render_eq_iff hvalues (by decide)).mpr rfl
  · rw [hback]
    exact congrArg Except.ok (show q.recovered.build false = .ok st' by decide +kernel)

end Query

end BoundSql
