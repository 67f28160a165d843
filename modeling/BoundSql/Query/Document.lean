import BoundSql.Query.Basic

/-! # Query documents

The JSON form of a query descriptor keeps the order of the members of its filters, and members of
the same name, since both decide the text of the statement. Fields without content are left out.
-/

namespace BoundSql

open Json (Draft Read Field Shape)

namespace Json

/-- A member that is left out when there is nothing to write. -/
def memberIf {α : Type} (name : String) (write : α → Json) : Option α → List (String × Json)
  | some a => [(name, write a)]
  | none => []

/-- A list that is left out when it is empty. -/
def memberUnlessEmpty {α : Type} (name : String) (write : α → Json) :
    List α → List (String × Json)
  | [] => []
  | items => [(name, .array (items.map write))]

end Json

namespace Join

def kindName : JoinKind → String
  | .inner => "inner"
  | .left => "left"
  | .right => "right"
  | .cross => "cross"

def toJson (j : Join) : Json :=
  .object [("type", .string (kindName j.kind)), ("table", .string j.table),
    ("alias", .string j.aliasName), ("on", .string j.on)]

def shape : Shape Join where
  title := "struct Join"
  start := ⟨.inner, "", "", ""⟩
  fields := [
    .required "type" (Draft.namedCase JoinKind.cases) fun kind j => { j with kind },
    .required "table" Draft.text fun table j => { j with table },
    .required "alias" Draft.text fun aliasName j => { j with aliasName },
    .required "on" Draft.text fun on j => { j with on }]

end Join

namespace Expression

def toJson (e : Expression) : Json :=
  .object [("column", .string e.column), ("operator", .string e.operator),
    ("value", .string e.value)]

def shape : Shape Expression where
  title := "struct Expression"
  start := ⟨"", "", ""⟩
  fields := [
    .required "column" Draft.text fun column e => { e with column },
    .required "operator" Draft.text fun operator e => { e with operator },
    .required "value" Draft.text fun value e => { e with value }]

end Expression

namespace Limit

def toJson (l : Limit) : Json :=
  .object [("offset", .ofNat l.offset.toNat), ("limit", .ofNat l.count.toNat)]

def shape : Shape Limit where
  title := "struct Limit"
  start := ⟨0, 0⟩
  fields := [
    .defaulted "offset" (Draft.unsigned 64) fun n l => { l with offset := .ofNat n },
    .required "limit" (Draft.unsigned 64) fun n l => { l with count := .ofNat n }]

end Limit

namespace SortKey

def toJson (o : SortKey) : Json :=
  .object [(o.column, .string o.direction.sql)]

def read (d : Draft) : Read SortKey := do
  let (column, direction) ←
    d.singleMember "an order entry as a single-entry map" (Draft.namedCase Direction.cases)
  pure ⟨column, direction⟩

end SortKey

namespace ColumnFilter

/-- The member of a filter: all conditions on its column. -/
def toMember (f : ColumnFilter) : String × Json :=
  (f.column, .array (f.conditions.map Condition.toJson))

/-- One condition, or a list of them. -/
def conditions? : Json → Option (List Condition)
  | .array items => items.mapM Condition.ofJson?
  | j => (Condition.ofJson? j).map ([·])

def title : String := "a map keyed by column name"

def readAll (d : Draft) : Read (List ColumnFilter) := do
  let members ← d.members title (Draft.alternative "OneOrMany" conditions?)
  pure (members.map fun (column, conditions) => ⟨column, conditions⟩)

end ColumnFilter

namespace Predicate

def toMember (p : Predicate) : String × Json :=
  (p.column, p.condition.toJson)

def groupToJson (group : List Predicate) : Json :=
  .object (group.map toMember)

def readGroup (d : Draft) : Read (List Predicate) := do
  let members ← d.members ColumnFilter.title Draft.condition
  pure (members.map fun (column, condition) => ⟨column, condition⟩)

end Predicate

namespace Query

open Json (memberIf memberUnlessEmpty)

/-- The filters as one object, unless there are none. -/
def filtersMember : List ColumnFilter → List (String × Json)
  | [] => []
  | filters => [("filters", .object (filters.map ColumnFilter.toMember))]

def toJson (q : Query) : Json :=
  .object (
    [("table", .string q.table), ("select", .ofStrings q.select)] ++
    memberIf "distinct" .string q.distinct ++
    memberUnlessEmpty "joins" Join.toJson q.joins ++
    filtersMember q.filters ++
    memberUnlessEmpty "or_filters" Predicate.groupToJson q.orFilters ++
    memberUnlessEmpty "expressions" Expression.toJson q.expressions ++
    memberIf "group_by" .string q.groupBy ++
    memberUnlessEmpty "order" SortKey.toJson q.order ++
    memberIf "limit" Limit.toJson q.limit)

def shape : Shape Query where
  title := "struct Resource"
  start := new ""
  fields := [
    .required "table" Draft.text fun table q => { q with table },
    .defaulted "select" (Draft.list Draft.text) fun select q => { q with select },
    .defaulted "distinct" (Draft.optional Draft.text) fun distinct q => { q with distinct },
    .defaulted "joins" (Draft.list Join.shape.read) fun joins q => { q with joins },
    .defaulted "filters" ColumnFilter.readAll fun filters q => { q with filters },
    .defaulted "or_filters" (Draft.list Predicate.readGroup)
      fun orFilters q => { q with orFilters },
    .defaulted "expressions" (Draft.list Expression.shape.read)
      fun expressions q => { q with expressions },
    .defaulted "group_by" (Draft.optional Draft.text) fun groupBy q => { q with groupBy },
    .defaulted "order" (Draft.list SortKey.read) fun order q => { q with order },
    .defaulted "limit" (Draft.optional Limit.shape.read) fun limit q => { q with limit }]

def read (d : Draft) : Read Query :=
  shape.read d

end Query

end BoundSql
