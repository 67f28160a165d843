import BoundSql.Table.Column

/-! # Tables

A table with its columns, its key, its foreign keys, and the drops and changes it waits for. To
create a table only the columns and keys count; to alter one, the columns are those to add.
-/

namespace BoundSql

inductive ReferentialAction where
  | noAction
  | restrict
  | cascade
  | setNull
  | setDefault
  deriving DecidableEq, Repr

namespace ReferentialAction

def sql : ReferentialAction → String
  | noAction => "NO ACTION"
  | restrict => "RESTRICT"
  | cascade => "CASCADE"
  | setNull => "SET NULL"
  | setDefault => "SET DEFAULT"

def keyword : ReferentialAction → String
  | noAction => "no_action"
  | restrict => "restrict"
  | cascade => "cascade"
  | setNull => "set_null"
  | setDefault => "set_default"

def cases : List (String × ReferentialAction) :=
  [noAction, restrict, cascade, setNull, setDefault].map fun a => (a.keyword, a)

end ReferentialAction

structure ForeignKey where
  column : String
  referencesTable : String
  referencesColumn : String
  onUpdate : Option ReferentialAction := none
  onDelete : Option ReferentialAction := none
  deriving DecidableEq, Repr

def storageEngines : List String :=
  ["InnoDB", "MEMORY", "MyISAM"]

def defaultEngine : String := "InnoDB"

def defaultCharset : String := "utf8"

structure Table where
  name : String
  engine : String := defaultEngine
  charset : String := defaultCharset
  columns : List Column := []
  droppedColumns : List String := []
  alteredColumns : List Column := []
  primaryKey : Option String := none
  foreignKeys : List ForeignKey := []
  deriving DecidableEq, Repr

namespace Column

/-- Puts a column in the place of the first one of its name, or behind all columns. -/
def replaceIn (c : Column) : List Column → List Column
  | [] => [c]
  | d :: rest => if d.name = c.name then c :: rest else d :: replaceIn c rest

end Column

namespace Table

def new (name : String) : Table :=
  { name }

def withEngine (t : Table) (engine : String) : Table :=
  { t with engine }

def withCharset (t : Table) (charset : String) : Table :=
  { t with charset }

/-- Adds a column, in place of one of the same name. -/
def addColumn (t : Table) (c : Column) : Table :=
  { t with columns := c.replaceIn t.columns }

/-- Asks for a drop, in place of any change of the column. -/
def dropColumn (t : Table) (name : String) : Table :=
  { t with
    alteredColumns := t.alteredColumns.filter (·.name ≠ name)
    droppedColumns :=
      if t.droppedColumns.contains name then t.droppedColumns else t.droppedColumns ++ [name] }

/-- Asks for a change, in place of any drop of the column. -/
def alterColumn (t : Table) (c : Column) : Table :=
  { t with
    droppedColumns := t.droppedColumns.filter (· ≠ c.name)
    alteredColumns := c.replaceIn t.alteredColumns }

/-- Adds a foreign key, in place of any on the same column. -/
def addForeignKey (t : Table) (k : ForeignKey) : Table :=
  { t with foreignKeys := t.foreignKeys.filter (·.column ≠ k.column) ++ [k] }

def withPrimaryKey (t : Table) (column : String) : Table :=
  { t with primaryKey := some column }

/-- The column of exactly the given name. -/
def column? (t : Table) (name : String) : Option Column :=
  t.columns.find? (·.name == name)

end Table

end BoundSql
