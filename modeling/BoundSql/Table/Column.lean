import BoundSql.Text.Blank
import BoundSql.Text.Letters
import BoundSql.Text.Literal

/-! # Columns

A column to create, to add or to change. Its options have three states, so that a change can tell
an option that is left alone from one that is taken away.
-/

namespace BoundSql

inductive SqlType where
  | int
  | tinyInt
  | smallInt
  | mediumInt
  | bigInt
  | float
  | double
  | real
  | decimal
  | numeric
  | date
  | dateTime
  | timestamp
  | time
  | year
  | char
  | varchar
  | binary
  | blob
  | text
  | tinyBlob
  | tinyText
  | mediumBlob
  | mediumText
  | longBlob
  | longText
  | enum
  deriving DecidableEq, Repr

namespace SqlType

def all : List SqlType :=
  [int, tinyInt, smallInt, mediumInt, bigInt, float, double, real, decimal, numeric, date,
    dateTime, timestamp, time, year, char, varchar, binary, blob, text, tinyBlob, tinyText,
    mediumBlob, mediumText, longBlob, longText, enum]

def sql : SqlType → String
  | int => "INT"
  | tinyInt => "TINYINT"
  | smallInt => "SMALLINT"
  | mediumInt => "MEDIUMINT"
  | bigInt => "BIGINT"
  | float => "FLOAT"
  | double => "DOUBLE"
  | real => "REAL"
  | decimal => "DECIMAL"
  | numeric => "NUMERIC"
  | date => "DATE"
  | dateTime => "DATETIME"
  | timestamp => "TIMESTAMP"
  | time => "TIME"
  | year => "YEAR"
  | char => "CHAR"
  | varchar => "VARCHAR"
  | binary => "BINARY"
  | blob => "BLOB"
  | text => "TEXT"
  | tinyBlob => "TINYBLOB"
  | tinyText => "TINYTEXT"
  | mediumBlob => "MEDIUMBLOB"
  | mediumText => "MEDIUMTEXT"
  | longBlob => "LONGBLOB"
  | longText => "LONGTEXT"
  | enum => "ENUM"

/-- Whether a type is written with a length. The BLOB and TEXT families, BINARY and the types of
dates and times, YEAR apart, have none. -/
def takesLength : SqlType → Bool
  | binary | blob | tinyBlob | mediumBlob | longBlob | text | tinyText | mediumText | longText
  | time | timestamp | date | dateTime => false
  | _ => true

/-- The type with the given name, in any case and with blanks around it. -/
def ofName? (name : String) : Option SqlType :=
  all.find? (·.sql == Text.upper (Text.trim name))

def unknownMessage (name : String) : String :=
  "unknown SQL type '" ++ name ++ "'"

end SqlType

/-- What stands in parentheses behind a type. -/
inductive Length where
  | size (n : UInt32)
  | precision (digits scale : UInt32)
  | values (texts : List String)
  deriving DecidableEq, Repr

/-- The values of an enumeration are written as literals. -/
def Length.sql : Length → String
  | size n => toString n.toNat
  | precision digits scale => toString digits.toNat ++ "," ++ toString scale.toNat
  | values texts => ",".intercalate (texts.map (Text.quoteWith '\''))

/-- An option that is left alone, turned on or turned off. -/
inductive Toggle where
  | unset
  | on
  | off
  deriving DecidableEq, Repr

namespace Toggle

def ofOption : Option Bool → Toggle
  | none => unset
  | some true => on
  | some false => off

def toOption : Toggle → Option Bool
  | unset => none
  | on => some true
  | off => some false

end Toggle

/-- An option that is left alone, set to a value or taken away. -/
inductive Setting (α : Type) where
  | unset
  | set (a : α)
  | clear
  deriving DecidableEq, Repr

def Setting.value? {α : Type} : Setting α → Option α
  | set a => some a
  | _ => none

/-- The default of a column: a literal, or an expression written as it stands. -/
inductive DefaultValue where
  | literal (s : String)
  | expression (s : String)
  deriving DecidableEq, Repr

namespace DefaultValue

/-- Whether a literal spells the current timestamp, which is an expression after all. -/
def isTimestamp (s : String) : Bool :=
  let name := Text.lower (Text.trim s)
  name == "current_timestamp()" || name == "current_timestamp"

def sql : DefaultValue → String
  | literal s => if isTimestamp s then s else Text.quoteWith '"' s
  | expression s => s

end DefaultValue

structure Column where
  name : String
  type : Option SqlType := none
  length : Option Length := none
  unsigned : Toggle := .unset
  notNull : Toggle := .unset
  autoIncrement : Toggle := .unset
  zerofill : Toggle := .unset
  primaryKey : Toggle := .unset
  default : Setting DefaultValue := .unset
  onUpdate : Option String := none
  comment : Setting String := .unset
  renameTo : Option String := none
  deriving DecidableEq, Repr

namespace Column

def new (name : String) (type : SqlType) : Column :=
  { name, type := some type }

/-- A change of the column `name` that keeps its type. -/
def alter (name : String) : Column :=
  { name }

def withType (c : Column) (type : SqlType) : Column :=
  { c with type := some type }

def withLength (c : Column) (length : Length) : Column :=
  { c with length := some length }

def asUnsigned (c : Column) : Column :=
  { c with unsigned := .on }

def asNotNull (c : Column) : Column :=
  { c with notNull := .on }

def asNullable (c : Column) : Column :=
  { c with notNull := .off }

def asAutoIncrement (c : Column) : Column :=
  { c with autoIncrement := .on }

def asZerofill (c : Column) : Column :=
  { c with zerofill := .on }

def withoutZerofill (c : Column) : Column :=
  { c with zerofill := .off }

def asPrimaryKey (c : Column) : Column :=
  { c with primaryKey := .on }

def withDefault (c : Column) (value : DefaultValue) : Column :=
  { c with default := .set value }

def withoutDefault (c : Column) : Column :=
  { c with default := .clear }

def withOnUpdate (c : Column) (expression : String) : Column :=
  { c with onUpdate := some expression }

def withComment (c : Column) (comment : String) : Column :=
  { c with comment := .set comment }

def withoutComment (c : Column) : Column :=
  { c with comment := .clear }

def renamed (c : Column) (name : String) : Column :=
  { c with renameTo := some name }

end Column

end BoundSql
