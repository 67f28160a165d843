import BoundSql.Json.Reader
import BoundSql.Value

/-! # Conditions

A condition pairs an operator keyword with an operand: one value, a list of values, or a range.
The keyword is kept as written; only the thirteen known ones have a meaning in SQL.
-/

namespace BoundSql

inductive Operator where
  | equal
  | notEqual
  | greater
  | less
  | greaterEqual
  | lessEqual
  | like
  | notLike
  | among
  | notAmong
  | isNull
  | isNotNull
  | between
  deriving DecidableEq, Repr

namespace Operator

def all : List Operator :=
  [equal, notEqual, greater, less, greaterEqual, lessEqual, like, notLike, among, notAmong, isNull,
    isNotNull, between]

def sql : Operator → String
  | equal => "="
  | notEqual => "!="
  | greater => ">"
  | less => "<"
  | greaterEqual => ">="
  | lessEqual => "<="
  | like => "LIKE"
  | notLike => "NOT LIKE"
  | among => "IN"
  | notAmong => "NOT IN"
  | isNull => "IS NULL"
  | isNotNull => "IS NOT NULL"
  | between => "BETWEEN"

def keyword : Operator → String
  | equal => "eq"
  | notEqual => "neq"
  | greater => "gt"
  | less => "lt"
  | greaterEqual => "gteq"
  | lessEqual => "lteq"
  | like => "like"
  | notLike => "nlike"
  | among => "in"
  | notAmong => "nin"
  | isNull => "null"
  | isNotNull => "not-null"
  | between => "date"

def ofKeyword? (keyword : String) : Option Operator :=
  all.find? (·.keyword == keyword)

end Operator

/-- What a condition compares with. -/
inductive Operand where
  | scalar (v : Value)
  | list (vs : List Value)
  | range (low high : Value)
  deriving DecidableEq, Repr

namespace Operand

def absent : Operand := .scalar .null

/-- The values of an operand in the order they are bound. -/
def values : Operand → List Value
  | scalar v => [v]
  | list vs => vs
  | range low high => [low, high]

def toJson : Operand → Json
  | scalar v => v.toJson
  | list vs => .array (vs.map Value.toJson)
  | range low high => .object [("from", low.toJson), ("to", high.toJson)]

/-- The values of all members with the given name. -/
def named (name : String) (members : List (String × Json)) : List Json :=
  (members.filter (·.1 == name)).map (·.2)

/-- A range is an object with one lower and one upper bound; other members are ignored. -/
def range? (members : List (String × Json)) : Option Operand :=
  match named "from" members, named "to" members with
  | [low], [high] => do pure (range (← Value.ofJson? low) (← Value.ofJson? high))
  | _, _ => none

/-- An array is a list before it is a blob. -/
def ofJson? : Json → Option Operand
  | .object members => range? members
  | .array items => (items.mapM Value.ofJson?).map list
  | j => (Value.ofJson? j).map scalar

end Operand

structure Condition where
  operator : String
  operand : Operand
  deriving DecidableEq, Repr

namespace Condition

def toJson (c : Condition) : Json :=
  .object [(c.operator, c.operand.toJson)]

def ofJson? : Json → Option Condition
  | .object [(operator, operand)] => (Operand.ofJson? operand).map (⟨operator, ·⟩)
  | _ => none

/-- A comparison with one value. -/
def compare (op : Operator) (v : Value) : Condition :=
  ⟨op.keyword, .scalar v⟩

def among (vs : List Value) : Condition :=
  ⟨Operator.among.keyword, .list vs⟩

def notAmong (vs : List Value) : Condition :=
  ⟨Operator.notAmong.keyword, .list vs⟩

def isNull : Condition :=
  ⟨Operator.isNull.keyword, .absent⟩

def isNotNull : Condition :=
  ⟨Operator.isNotNull.keyword, .absent⟩

/-- Both bounds belong to the range. -/
def between (low high : Value) : Condition :=
  ⟨Operator.between.keyword, .range low high⟩

/-- A comparison with each value, one of which has to hold. -/
def anyOf (operator : String) (vs : List Value) : Condition :=
  ⟨operator, .list vs⟩

end Condition

structure Predicate where
  column : String
  condition : Condition
  deriving DecidableEq, Repr

namespace Json.Draft

def operand (d : Draft) : Read Operand :=
  d.alternative "FilterValue" Operand.ofJson?

def value (d : Draft) : Read Value :=
  d.alternative "SqlValue" Value.ofJson?

def conditionTitle : String := "a condition as a single-entry map"

def condition (d : Draft) : Read Condition := do
  let (operator, operand) ← d.singleMember conditionTitle operand
  pure ⟨operator, operand⟩

end Json.Draft

end BoundSql
