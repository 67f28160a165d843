import BoundSql.Condition.Basic

/-! # Query descriptors

A query descriptor names a table, what to select from it, and under which conditions. Conditions
on one column stand together under its name, in the order of their first use.
-/

namespace BoundSql

inductive JoinKind where
  | inner
  | left
  | right
  | cross
  deriving DecidableEq, Repr

def JoinKind.sql : JoinKind → String
  | inner => "INNER"
  | left => "LEFT"
  | right => "RIGHT"
  | cross => "CROSS"

def JoinKind.cases : List (String × JoinKind) :=
  [("inner", inner), ("left", left), ("right", right), ("cross", cross)]

/-- A joined table; the condition after ON is raw text. -/
structure Join where
  kind : JoinKind
  table : String
  aliasName : String
  on : String
  deriving DecidableEq, Repr

inductive Direction where
  | ascending
  | descending
  deriving DecidableEq, Repr

def Direction.sql : Direction → String
  | ascending => "ASC"
  | descending => "DESC"

def Direction.cases : List (String × Direction) :=
  [("ASC", ascending), ("asc", ascending), ("DESC", descending), ("desc", descending)]

structure SortKey where
  column : String
  direction : Direction
  deriving DecidableEq, Repr

/-- A raw comparison, pasted as it stands. -/
structure Expression where
  column : String
  operator : String
  value : String
  deriving DecidableEq, Repr

structure Limit where
  offset : UInt64
  count : UInt64
  deriving DecidableEq, Repr

/-- The conditions on one column, all of which have to hold. -/
structure ColumnFilter where
  column : String
  conditions : List Condition
  deriving DecidableEq, Repr

/-- What to select, or to delete. -/
structure Query where
  table : String
  select : List String := []
  distinct : Option String := none
  joins : List Join := []
  filters : List ColumnFilter := []
  orFilters : List (List Predicate) := []
  expressions : List Expression := []
  groupBy : Option String := none
  order : List SortKey := []
  limit : Option Limit := none
  deriving DecidableEq, Repr

namespace ColumnFilter

/-- Adds a condition to the first filter on its column, or behind all filters. -/
def insert (column : String) (c : Condition) : List ColumnFilter → List ColumnFilter
  | [] => [⟨column, [c]⟩]
  | filter :: rest =>
    if filter.column = column then { filter with conditions := filter.conditions ++ [c] } :: rest
    else filter :: insert column c rest

end ColumnFilter

namespace Query

def new (table : String) : Query :=
  { table }

def selecting (q : Query) (columns : List String) : Query :=
  { q with select := q.select ++ columns }

def distinctOn (q : Query) (column : String) : Query :=
  { q with distinct := some column }

def join (q : Query) (j : Join) : Query :=
  { q with joins := q.joins ++ [j] }

def filter (q : Query) (column : String) (c : Condition) : Query :=
  { q with filters := ColumnFilter.insert column c q.filters }

/-- Adds a group of which one member has to hold. -/
def orFilter (q : Query) (group : List Predicate) : Query :=
  { q with orFilters := q.orFilters ++ [group] }

def expression (q : Query) (e : Expression) : Query :=
  { q with expressions := q.expressions ++ [e] }

def groupedBy (q : Query) (expression : String) : Query :=
  { q with groupBy := some expression }

def orderBy (q : Query) (o : SortKey) : Query :=
  { q with order := q.order ++ [o] }

def limitedTo (q : Query) (offset count : UInt64) : Query :=
  { q with limit := some ⟨offset, count⟩ }

end Query

end BoundSql
