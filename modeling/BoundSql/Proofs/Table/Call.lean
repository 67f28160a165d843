import BoundSql.Proofs.Schema.Key

/-! # Tables described call by call

A table is described by calls, one after the other, that start from its name alone. A call may
replace what was asked before about the same column, and so no call asks twice for one name: the
columns to add, the drops and the changes keep different names in every table that calls describe.
Names that differ in case count as different here.
-/

namespace BoundSql.Table

inductive Call where
  | engine (name : String)
  | charset (name : String)
  | addColumn (c : Column)
  | dropColumn (name : String)
  | alterColumn (c : Column)
  | addForeignKey (k : ForeignKey)
  | primaryKey (column : String)
  deriving DecidableEq, Repr

def after (t : Table) : Call → Table
  | .engine name => t.withEngine name
  | .charset name => t.withCharset name
  | .addColumn c => t.addColumn c
  | .dropColumn name => t.dropColumn name
  | .alterColumn c => t.alterColumn c
  | .addForeignKey k => t.addForeignKey k
  | .primaryKey column => t.withPrimaryKey column

def described (name : String) (calls : List Call) : Table :=
  calls.foldl after (.new name)

/-- No two requests of one kind have the same name. -/
structure RequestsDiffer (t : Table) : Prop where
  columns : t.NamesDiffer
  drops : t.droppedColumns.Nodup
  changes : (t.alteredColumns.map (·.name)).Nodup

namespace RequestsDiffer

variable {t : Table}

theorem new (name : String) : (Table.new name).RequestsDiffer :=
  ⟨.new name, List.nodup_nil, List.nodup_nil⟩

theorem dropColumn (h : t.RequestsDiffer) (name : String) :
    (t.dropColumn name).RequestsDiffer := by
  refine ⟨h.columns, ?_, h.changes.sublist (List.filter_sublist.map _)⟩
  simp only [Table.dropColumn, List.contains_iff_mem]
  split
  · exact h.drops
  · rename_i hname
    rw [List.nodup_append]
    refine ⟨h.drops, by simp, ?_⟩
    rintro other hother _ hlast rfl
    rw [List.mem_singleton] at hlast
    exact hname (hlast ▸ hother)

theorem alterColumn (h : t.RequestsDiffer) (c : Column) : (t.alterColumn c).RequestsDiffer :=
  ⟨h.columns, h.drops.filter _, Column.nodup_replaceIn h.changes c⟩

theorem after (h : t.RequestsDiffer) (call : Call) : (t.after call).RequestsDiffer := by
  cases call with
  | addColumn c => exact ⟨h.columns.addColumn c, h.drops, h.changes⟩
  | dropColumn name => exact h.dropColumn name
  | alterColumn c => exact h.alterColumn c
  | engine | charset | addForeignKey | primaryKey => exact ⟨h.columns, h.drops, h.changes⟩

theorem foldl (h : t.RequestsDiffer) (calls : List Call) :
    (calls.foldl Table.after t).RequestsDiffer := by
  induction calls generalizing t with
  | nil => exact h
  | cons call calls ih => exact ih (h.after call)

end RequestsDiffer

theorem requestsDiffer_described (name : String) (calls : List Call) :
    (described name calls).RequestsDiffer :=
  (RequestsDiffer.new name).foldl calls

end BoundSql.Table
