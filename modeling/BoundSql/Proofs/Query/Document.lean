import BoundSql.Proofs.Condition.Document
import BoundSql.Proofs.Json.Record
import BoundSql.Query.Build

/-! # Documents of queries

A query is recovered from its JSON form, with every order and every repeated name, as long as its
operands are.
-/

namespace BoundSql

open Json (Draft Keeps Plain Recovers)
open Json.Shape (Enters Writes)

namespace Join

theorem lookup_kindName (kind : JoinKind) :
    JoinKind.cases.lookup (kindName kind) = some kind := by
  cases kind <;> decide

theorem keeps (j : Join) : Keeps 1 shape.read j.toJson j := by
  have htype : shape.Enters "type" (Draft.namedCase JoinKind.cases) fun kind j => { j with kind } :=
    ⟨_, rfl, rfl⟩
  have htable : shape.Enters "table" Draft.text fun table j => { j with table } := ⟨_, rfl, rfl⟩
  have halias : shape.Enters "alias" Draft.text fun aliasName j => { j with aliasName } :=
    ⟨_, rfl, rfl⟩
  have hon : shape.Enters "on" Draft.text fun on j => { j with on } := ⟨_, rfl, rfl⟩
  have hmembers := (htype.writes (.namedCase (n := 0) (lookup_kindName j.kind)) shape.start).append
    ((htable.writes (.text 0 j.table) _).append ((halias.writes (.text 0 j.aliasName) _).append
      (hon.writes (.text 0 j.on) _)))
  exact hmembers.keeps (by decide) (List.IsPrefix.subset ⟨_, rfl⟩) Json.Shape.endOfItems

end Join

theorem Expression.keeps (e : Expression) : Keeps 1 shape.read e.toJson e := by
  have hcolumn : shape.Enters "column" Draft.text fun column e => { e with column } :=
    ⟨_, rfl, rfl⟩
  have hoperator : shape.Enters "operator" Draft.text fun operator e => { e with operator } :=
    ⟨_, rfl, rfl⟩
  have hvalue : shape.Enters "value" Draft.text fun value e => { e with value } := ⟨_, rfl, rfl⟩
  have hmembers := (hcolumn.writes (.text 0 e.column) shape.start).append
    ((hoperator.writes (.text 0 e.operator) _).append (hvalue.writes (.text 0 e.value) _))
  exact hmembers.keeps (by decide) (List.IsPrefix.subset ⟨_, rfl⟩) Json.Shape.endOfItems

theorem Limit.keeps (l : Limit) : Keeps 1 shape.read l.toJson l := by
  have hoffset : shape.Enters "offset" (Draft.unsigned 64)
      fun n l => { l with offset := .ofNat n } := ⟨_, rfl, rfl⟩
  have hlimit : shape.Enters "limit" (Draft.unsigned 64)
      fun n l => { l with count := .ofNat n } := ⟨_, rfl, rfl⟩
  have hword (n : UInt64) : Keeps 0 (Draft.unsigned 64) (.ofNat n.toNat) n.toNat := by
    have hn := n.toNat_lt
    exact ⟨.unsigned hn, .number 0 ⟨by omega, by omega⟩⟩
  have hmembers := (hoffset.writes (hword l.offset) shape.start).append
    (hlimit.writes (hword l.count) _)
  simp only [UInt64.ofNat_toNat] at hmembers
  exact hmembers.keeps (by decide) (List.subset_cons_self "offset" ["limit"]) Json.Shape.endOfItems

theorem SortKey.keeps (o : SortKey) : Keeps 1 read o.toJson o := by
  have hcase : Keeps 0 (Draft.namedCase Direction.cases) (.string o.direction.sql) o.direction :=
    .namedCase (by cases o.direction <;> decide)
  exact hcase.singleMember.map rfl

theorem ColumnFilter.keeps {fs : List ColumnFilter}
    (h : ∀ f ∈ fs, ∀ c ∈ f.conditions, c.operand.Exact) :
    Keeps 5 readAll (.object (fs.map toMember)) fs := by
  have hconditions (f : ColumnFilter) (hf : f ∈ fs) :
      Keeps 4 (Draft.alternative "OneOrMany" conditions?)
        (.array (f.conditions.map Condition.toJson)) f.conditions := by
    refine ⟨.alternative (mapM_map_eq_some fun c hc => Condition.ofJson?_toJson (h f hf c hc)),
      .array fun j hj => ?_⟩
    obtain ⟨c, hc, rfl⟩ := List.mem_map.mp hj
    exact Condition.plain (h f hf c hc)
  have hmembers : Keeps 5 (Draft.members title (Draft.alternative "OneOrMany" conditions?))
      (.object (fs.map toMember)) (fs.map fun f => (f.column, f.conditions)) :=
    .members hconditions
  exact hmembers.map (List.map_map.trans (List.map_id fs))

theorem Predicate.keeps {group : List Predicate} (h : ∀ p ∈ group, p.condition.operand.Exact) :
    Keeps 4 readGroup (groupToJson group) group := by
  have hcondition (p : Predicate) (hp : p ∈ group) :
      Keeps 3 Draft.condition p.condition.toJson p.condition :=
    ⟨Condition.recovers (h p hp), Condition.plain (h p hp)⟩
  have hmembers : Keeps 4 (Draft.members ColumnFilter.title Draft.condition)
      (.object (group.map toMember)) (group.map fun p => (p.column, p.condition)) :=
    .members hcondition
  exact hmembers.map (List.map_map.trans (List.map_id group))

namespace Query

structure Exact (q : Query) : Prop where
  filters : ∀ f ∈ q.filters, ∀ c ∈ f.conditions, c.operand.Exact
  orFilters : ∀ group ∈ q.orFilters, ∀ p ∈ group, p.condition.operand.Exact

def members (q : Query) : List (String × Json) :=
  [("table", .string q.table), ("select", .ofStrings q.select)] ++
  Json.memberIf "distinct" .string q.distinct ++
  Json.memberUnlessEmpty "joins" Join.toJson q.joins ++
  filtersMember q.filters ++
  Json.memberUnlessEmpty "or_filters" Predicate.groupToJson q.orFilters ++
  Json.memberUnlessEmpty "expressions" Expression.toJson q.expressions ++
  Json.memberIf "group_by" .string q.groupBy ++
  Json.memberUnlessEmpty "order" SortKey.toJson q.order ++
  Json.memberIf "limit" Limit.toJson q.limit

theorem writes_filtersMember {fs : List ColumnFilter}
    (h : ∀ f ∈ fs, ∀ c ∈ f.conditions, c.operand.Exact) {a : Query}
    (ha : { a with filters := [] } = a) :
    shape.Writes 5 ["filters"] (filtersMember fs) a { a with filters := fs } := by
  have hfilters : shape.Enters "filters" ColumnFilter.readAll
    fun filters q => { q with filters } := ⟨_, rfl, rfl⟩
  cases fs with
  | nil =>
    rw [ha]
    exact .nil a
  | cons f fs => exact hfilters.writes (ColumnFilter.keeps h) a

theorem writes_members {q : Query} (h : q.Exact) :
    shape.Writes 5 (shape.fields.map Json.Field.name) q.members shape.start q := by
  have htable : shape.Enters "table" Draft.text fun table q => { q with table } := ⟨_, rfl, rfl⟩
  have hselect : shape.Enters "select" (Draft.list Draft.text)
    fun select q => { q with select } := ⟨_, rfl, rfl⟩
  have hdistinct : shape.Enters "distinct" (Draft.optional Draft.text)
    fun distinct q => { q with distinct } := ⟨_, rfl, rfl⟩
  have hjoins : shape.Enters "joins" (Draft.list Join.shape.read)
    fun joins q => { q with joins } := ⟨_, rfl, rfl⟩
  have horFilters : shape.Enters "or_filters" (Draft.list Predicate.readGroup)
    fun orFilters q => { q with orFilters } := ⟨_, rfl, rfl⟩
  have hexpressions : shape.Enters "expressions" (Draft.list Expression.shape.read)
    fun expressions q => { q with expressions } := ⟨_, rfl, rfl⟩
  have hgroupBy : shape.Enters "group_by" (Draft.optional Draft.text)
    fun groupBy q => { q with groupBy } := ⟨_, rfl, rfl⟩
  have horder : shape.Enters "order" (Draft.list SortKey.read)
    fun order q => { q with order } := ⟨_, rfl, rfl⟩
  have hlimit : shape.Enters "limit" (Draft.optional Limit.shape.read)
    fun limit q => { q with limit } := ⟨_, rfl, rfl⟩
  have h₁ := (htable.writes (.text 5 q.table) shape.start).append
    (hselect.writes (.list fun s (_ : s ∈ q.select) => .text 4 s) _)
  have h₂ := h₁.append (hdistinct.writesIf q.distinct (.text 5) nofun rfl)
  have h₃ := h₂.append (hjoins.writesUnlessEmpty q.joins
    (fun j _ => j.keeps.mono (by decide)) rfl)
  have h₄ := h₃.append (writes_filtersMember h.filters rfl)
  have h₅ := h₄.append (horFilters.writesUnlessEmpty q.orFilters
    (fun group hgroup => Predicate.keeps (h.orFilters group hgroup)) rfl)
  have h₆ := h₅.append (hexpressions.writesUnlessEmpty q.expressions
    (fun e _ => e.keeps.mono (by decide)) rfl)
  have h₇ := h₆.append (hgroupBy.writesIf q.groupBy (.text 5) nofun rfl)
  have h₈ := h₇.append (horder.writesUnlessEmpty q.order
    (fun o _ => o.keeps.mono (by decide)) rfl)
  exact h₈.append (hlimit.writesIf q.limit (fun l => l.keeps.mono (by decide)) nofun rfl)

theorem recovers {q : Query} (h : q.Exact) : Recovers read q.toJson q := by
  have hkeeps := (writes_members h).keeps (by decide) (List.IsPrefix.subset ⟨_, rfl⟩)
    Json.Shape.endOfItems
  exact hkeeps.recovers

theorem plain_members {q : Query} (h : q.Exact) : ∀ member ∈ q.members, Plain 5 member.2 :=
  (writes_members h).plain

/-- A query comes back from the text of its JSON form, with every order and every repeated name. So
the statement or the error that is built from it stays the same. -/
theorem read_render {q : Query} (h : q.Exact) :
    (Json.Document.ofString q.toJson.render).read read = .ok q ∧
      ∀ delete, ((Json.Document.ofString q.toJson.render).read read).map (·.build delete) =
        .ok (q.build delete) := by
  have hplain : Plain 6 q.toJson := .object (plain_members h)
  have hread := Json.Document.read_ofString_render (hplain.mono (by decide)) (recovers h)
  exact ⟨hread, fun delete => by rw [hread]; rfl⟩

/-- A query with a column filtered twice, filters and groups without conditions, a column twice in a
group, an operator of no meaning, and blobs in a list. -/
theorem read_render_of_repetitions :
    let q : Query := {
      table := "accounts"
      select := ["id", "id"]
      filters := [⟨"age", [.compare .greater (.int (-5)), ⟨"\"\n", .list []⟩]⟩, ⟨"name", []⟩,
        ⟨"age", [.between (.blob [0, 255]) .null]⟩]
      orFilters := [[], [⟨"role", .among [.blob [1, 2], .text "é\x01"]⟩, ⟨"role", .isNull⟩]]
      limit := some ⟨0, 18446744073709551615⟩ }
    q.Exact ∧ (Json.Document.ofString q.toJson.render).read read = .ok q ∧
      ∀ delete, ((Json.Document.ofString q.toJson.render).read read).map (·.build delete) =
        .ok (q.build delete) := by
  intro q
  have exact (o : Operand) (hvalues : o.values.all (! ·.isFloat))
      (hblob : ∀ bytes, o ≠ .scalar (.blob bytes)) : o.Exact :=
    ⟨by simpa using hvalues, hblob⟩
  have h : q.Exact := by
    constructor
    · intro f hf c hc
      simp only [q, List.mem_cons, List.not_mem_nil, or_false] at hf
      rcases hf with rfl | rfl | rfl <;>
        simp only [List.mem_cons, List.not_mem_nil, or_false] at hc
      · rcases hc with rfl | rfl <;> exact exact _ rfl nofun
      · obtain rfl := hc
        exact exact _ rfl nofun
    · intro group hgroup p hp
      simp only [q, List.mem_cons, List.not_mem_nil, or_false] at hgroup
      rcases hgroup with rfl | rfl <;>
        simp only [List.mem_cons, List.not_mem_nil, or_false] at hp
      rcases hp with rfl | rfl <;> exact exact _ rfl nofun
  exact ⟨h, read_render h⟩

end Query

end BoundSql
