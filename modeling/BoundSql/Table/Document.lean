import BoundSql.Query.Document
import BoundSql.Table.Basic

/-! # Table documents

The JSON form of a table descriptor. An option that is left alone is left out; `false` turns a
toggle off and takes a setting away, so the three states never meet.
-/

namespace BoundSql

open Json (Draft Read Field Shape memberIf memberUnlessEmpty)

namespace SqlType

def read (d : Draft) : Read SqlType := do
  let name ← d.text
  match ofName? name with
  | some type => pure type
  | none => Read.refuseValue (.refused (unknownMessage name))

end SqlType

namespace Length

/-- An integer of 32 bits without a sign. -/
def word? : Json → Option UInt32
  | .number (.integer n) => if 0 ≤ n ∧ n < 2 ^ 32 then some (.ofNat n.toNat) else none
  | _ => none

def text? : Json → Option String
  | .string s => some s
  | _ => none

/-- A pair of numbers is a precision; every other array is a list of values. -/
def ofJson? : Json → Option Length
  | .array items =>
    match items.mapM word? with
    | some [digits, scale] => some (precision digits scale)
    | _ => (items.mapM text?).map values
  | j => (word? j).map size

def toJson : Length → Json
  | size n => .ofNat n.toNat
  | precision digits scale => .array [.ofNat digits.toNat, .ofNat scale.toNat]
  | values texts => .ofStrings texts

def read (d : Draft) : Read Length :=
  d.alternative "Length" ofJson?

end Length

namespace Toggle

def toJson (t : Toggle) : Json :=
  match t.toOption with
  | some b => .bool b
  | none => .null

def read (d : Draft) : Read Toggle :=
  ofOption <$> d.optional Draft.boolean

end Toggle

namespace Setting

variable {α : Type}

/-- The wording for `true` in the place of a setting. -/
def notAValue : String := "`true` is not a value; give the value or `false` to clear"

/-- Null leaves a setting alone, `false` takes it away, and `true` means nothing. -/
def read (value? : Json → Option α) (d : Draft) : Read (Setting α) :=
  match d with
  | .null _ => .ok unset
  | .bool false _ => .ok clear
  | .bool true _ => Read.refuseValue (.refused notAValue)
  | d => set <$> d.alternative "Repr" value?

def toJson (write : α → Json) : Setting α → Json
  | unset => .null
  | set a => write a
  | clear => .bool false

end Setting

namespace DefaultValue

def ofNumber : Json.Number → DefaultValue
  | .integer n => literal (if Value.fitsInt64 n then toString n else (Binary64.ofInt n).plain)
  | .float x => literal x.plain

/-- The expression of an object that gives exactly one. -/
def expression? (members : List (String × Json)) : Option DefaultValue :=
  match Operand.named "expression" members with
  | [.string s] => some (expression s)
  | _ => none

def ofJson? : Json → Option DefaultValue
  | .string s => some (literal s)
  | .number n => some (ofNumber n)
  | .object members => expression? members
  | _ => none

def toJson : DefaultValue → Json
  | literal s => .string s
  | expression s => .object [("expression", .string s)]

end DefaultValue

namespace Json

def memberIfToggled (name : String) : Toggle → List (String × Json)
  | .unset => []
  | t => [(name, t.toJson)]

/-- A setting that is left out when it is left alone. -/
def memberIfSet {α : Type} (name : String) (write : α → Json) :
    Setting α → List (String × Json)
  | .unset => []
  | s => [(name, s.toJson write)]

end Json

namespace Column

open Json (memberIfToggled memberIfSet)

def toJson (c : Column) : Json :=
  .object (
    [("name", .string c.name)] ++
    memberIf "type" (fun type => .string type.sql) c.type ++
    memberIf "length" Length.toJson c.length ++
    memberIfToggled "unsigned" c.unsigned ++
    memberIfToggled "not_null" c.notNull ++
    memberIfToggled "auto_increment" c.autoIncrement ++
    memberIfToggled "zerofill" c.zerofill ++
    memberIfToggled "primary_key" c.primaryKey ++
    memberIfSet "default" DefaultValue.toJson c.default ++
    memberIf "on_update" .string c.onUpdate ++
    memberIfSet "comment" .string c.comment ++
    memberIf "rename_to" .string c.renameTo)

def shape : Shape Column where
  title := "struct Column"
  start := alter ""
  fields := [
    .required "name" Draft.text fun name c => { c with name },
    .defaulted "type" (Draft.optional SqlType.read) fun type c => { c with type },
    .defaulted "length" (Draft.optional Length.read) fun length c => { c with length },
    .defaulted "unsigned" Toggle.read fun unsigned c => { c with unsigned },
    .defaulted "not_null" Toggle.read fun notNull c => { c with notNull },
    .defaulted "auto_increment" Toggle.read fun autoIncrement c => { c with autoIncrement },
    .defaulted "zerofill" Toggle.read fun zerofill c => { c with zerofill },
    .defaulted "primary_key" Toggle.read fun primaryKey c => { c with primaryKey },
    .defaulted "default" (Setting.read DefaultValue.ofJson?) fun default c => { c with default },
    .defaulted "on_update" (Draft.optional Draft.text) fun onUpdate c => { c with onUpdate },
    .defaulted "comment" (Setting.read Length.text?) fun comment c => { c with comment },
    .defaulted "rename_to" (Draft.optional Draft.text) fun renameTo c => { c with renameTo }]

def read (d : Draft) : Read Column :=
  shape.read d

end Column

namespace ForeignKey

def actionToJson (a : ReferentialAction) : Json :=
  .string a.keyword

def toJson (k : ForeignKey) : Json :=
  .object (
    [("column", .string k.column), ("references_table", .string k.referencesTable),
      ("references_column", .string k.referencesColumn)] ++
    memberIf "on_update" actionToJson k.onUpdate ++
    memberIf "on_delete" actionToJson k.onDelete)

def readAction (d : Draft) : Read (Option ReferentialAction) :=
  d.optional (Draft.namedCase ReferentialAction.cases)

def shape : Shape ForeignKey where
  title := "struct ForeignKey"
  start := ⟨"", "", "", none, none⟩
  fields := [
    .required "column" Draft.text fun column k => { k with column },
    .required "references_table" Draft.text fun referencesTable k => { k with referencesTable },
    .required "references_column" Draft.text
      fun referencesColumn k => { k with referencesColumn },
    .defaulted "on_update" readAction fun onUpdate k => { k with onUpdate },
    .defaulted "on_delete" readAction fun onDelete k => { k with onDelete }]

end ForeignKey

namespace Table

def toJson (t : Table) : Json :=
  .object (
    [("name", .string t.name), ("engine", .string t.engine), ("charset", .string t.charset),
      ("columns", .array (t.columns.map Column.toJson))] ++
    memberUnlessEmpty "dropped_columns" .string t.droppedColumns ++
    memberUnlessEmpty "altered_columns" Column.toJson t.alteredColumns ++
    memberIf "primary_key" .string t.primaryKey ++
    memberUnlessEmpty "foreign_keys" ForeignKey.toJson t.foreignKeys)

def shape : Shape Table where
  title := "struct Table"
  start := new ""
  fields := [
    .required "name" Draft.text fun name t => { t with name },
    .defaulted "engine" Draft.text fun engine t => { t with engine },
    .defaulted "charset" Draft.text fun charset t => { t with charset },
    .defaulted "columns" (Draft.list Column.read) fun columns t => { t with columns },
    .defaulted "dropped_columns" (Draft.list Draft.text)
      fun droppedColumns t => { t with droppedColumns },
    .defaulted "altered_columns" (Draft.list Column.read)
      fun alteredColumns t => { t with alteredColumns },
    .defaulted "primary_key" (Draft.optional Draft.text)
      fun primaryKey t => { t with primaryKey },
    .defaulted "foreign_keys" (Draft.list ForeignKey.shape.read)
      fun foreignKeys t => { t with foreignKeys }]

def read (d : Draft) : Read Table :=
  shape.read d

end Table

end BoundSql
