import BoundSql.Text.Blank
import BoundSql.Text.Letters

/-! # Kinds of column values

The server names the type of every result column, as in `INT UNSIGNED`. The first word of the name
decides the kind of the values; only integers ask whether the rest says that they have no sign.
-/

namespace BoundSql

inductive ValueKind where
  | signed
  | unsigned
  | float
  | double
  | boolean
  | date
  | dateTime
  | time
  | bytes
  | text
  deriving DecidableEq, Repr

namespace ValueKind

/-- The first words of the integer types. -/
def integerWords : List String :=
  ["TINYINT", "SMALLINT", "MEDIUMINT", "INT", "INTEGER", "BIGINT"]

/-- The first words of all other types that are not kept as text. -/
def words : List (String × ValueKind) :=
  [("YEAR", signed), ("BOOLEAN", boolean), ("BOOL", boolean), ("FLOAT", float),
    ("DOUBLE", double), ("REAL", double), ("DATE", date), ("DATETIME", dateTime),
    ("TIMESTAMP", dateTime), ("TIME", time), ("BINARY", bytes), ("VARBINARY", bytes),
    ("BLOB", bytes), ("TINYBLOB", bytes), ("MEDIUMBLOB", bytes), ("LONGBLOB", bytes),
    ("BIT", bytes), ("GEOMETRY", bytes)]

/-- The kind of a type by its first word, in capitals. -/
def ofWord (word : String) (unsigned : Bool) : ValueKind :=
  if integerWords.contains word then (if unsigned then .unsigned else .signed)
  else (words.lookup word).getD .text

/-- The kind of the values of a server type, whose name may be written in any case. -/
def ofServerType (name : String) : ValueKind :=
  let name := Text.upper name
  ofWord (Text.firstWord name) (Text.mentions name "UNSIGNED")

end ValueKind

end BoundSql
