import BoundSql.Condition.Formatter
import BoundSql.Query.Basic
import BoundSql.Statement

/-! # SELECT and DELETE

A query descriptor becomes one statement. The conditions of its filters, its groups and its raw
expressions stand after WHERE, in this order and joined by AND; the values are bound in the same
order.
-/

namespace BoundSql.Query

/-- The alias of the queried table. -/
def mainAlias : String := "main_table"

/-- The selected columns; a distinct column comes first unless it is among them. -/
def projection (q : Query) : String :=
  let columns := ", ".intercalate q.select
  match q.distinct with
  | some d => if q.select.contains d then columns else "DISTINCT " ++ d ++ ", " ++ columns
  | none => columns

def joinClause (j : Join) : String :=
  " " ++ j.kind.sql ++ " JOIN " ++ j.table ++ " AS " ++ j.aliasName ++ " ON " ++ j.on

/-- A raw expression binds nothing. -/
def expressionText (e : Expression) : String :=
  e.column ++ " " ++ e.operator ++ " " ++ e.value

def filterTexts (f : ColumnFilter) : Formatter (List String) :=
  f.conditions.mapM (Formatter.condition f.column)

/-- The texts that have to hold together, or the error of the first condition without one. -/
def whereTexts (q : Query) : Formatter (List String) := do
  let filters ← q.filters.mapM filterTexts
  let groups ← q.orFilters.mapM Formatter.group
  pure (filters.flatten ++ groups.filterMap id ++ q.expressions.map expressionText)

/-- The WHERE clause of some texts; none without texts. -/
def whereClause : List String → String
  | [] => ""
  | texts => " WHERE " ++ " AND ".intercalate texts

def groupClause : Option String → String
  | some g => " GROUP BY " ++ g
  | none => ""

def orderEntry (o : SortKey) : String :=
  o.column ++ " " ++ o.direction.sql

def orderClause : List SortKey → String
  | [] => ""
  | os => " ORDER BY " ++ ", ".intercalate (os.map orderEntry)

def limitClause : Option Limit → String
  | some l => " LIMIT " ++ toString l.offset.toNat ++ ", " ++ toString l.count.toNat
  | none => ""

/-- The text of the statement, with some texts after WHERE. -/
def sql (q : Query) (delete : Bool) (texts : List String) : String :=
  (if delete then "DELETE " else "SELECT ") ++ q.projection ++ " FROM " ++ q.table ++
    " AS " ++ mainAlias ++ String.join (q.joins.map joinClause) ++ whereClause texts ++
    groupClause q.groupBy ++ orderClause q.order ++ limitClause q.limit ++ ";"

def build (q : Query) (delete : Bool) : Except Error Statement := do
  if q.table.isEmpty then throw (.incomplete .queryTable)
  if q.select.isEmpty then throw .emptyProjection
  let (texts, binds) := q.whereTexts.run .empty
  pure ⟨q.sql delete (← texts), binds.values⟩

end BoundSql.Query
