import BoundSql.Proofs.Keyed
import BoundSql.Proofs.Table.Call
import Mathlib.Data.List.Dedup

/-! # What a table keeps of its calls

A table can be read off the calls that describe it. Of all calls that add a column of one name the
last counts, and so does the last of all that drop or change it, and of all that put a foreign key
on it. Columns keep the places of the first calls on their names; foreign keys stand in the order of
the last.
-/

namespace BoundSql

theorem Column.mem_replaceIn {cs : List Column} (h : (cs.map (·.name)).Nodup) {c d : Column} :
    d ∈ c.replaceIn cs ↔ d = c ∨ d ∈ cs ∧ d.name ≠ c.name := by
  induction cs with
  | nil => simp [replaceIn]
  | cons e rest ih =>
    obtain ⟨hname, hrest⟩ := List.nodup_cons.mp h
    rw [replaceIn]
    split
    next he =>
      have hother (d : Column) (hd : d ∈ rest) : d.name ≠ c.name := by
        intro hdc
        exact hname (List.mem_map.mpr ⟨d, hd, hdc.trans he.symm⟩)
      grind
    next he =>
      rw [List.mem_cons, ih hrest]
      grind

namespace Table

def Call.added? : Call → Option String
  | addColumn c => some c.name
  | _ => none

def Call.requested? : Call → Option String
  | dropColumn name => some name
  | alterColumn c => some c.name
  | _ => none

def Call.keyed? : Call → Option String
  | addForeignKey k => some k.column
  | _ => none

def last? (on : Call → Option String) (name : String) (calls : List Call) : Option Call :=
  calls.reverse.find? (on · == some name)

/-- The columns of a table are the last that calls add under their names, in the order of the first
calls on these names. -/
structure ColumnsFollow (t : Table) (calls : List Call) : Prop where
  last : ∀ c, c ∈ t.columns ↔ last? Call.added? c.name calls = some (.addColumn c)
  order : t.columns.map (·.name) = (calls.filterMap Call.added?).eraseDups

/-- A table waits for a drop or a change of a column as the last call on the column asks. -/
structure RequestsFollow (t : Table) (calls : List Call) : Prop where
  drops : ∀ name, name ∈ t.droppedColumns ↔
    last? Call.requested? name calls = some (.dropColumn name)
  changes : ∀ c, c ∈ t.alteredColumns ↔
    last? Call.requested? c.name calls = some (.alterColumn c)

/-- The foreign keys of a table are the last that calls put on their columns, in the order of these
last calls. -/
structure KeysFollow (t : Table) (calls : List Call) : Prop where
  last : ∀ k, k ∈ t.foreignKeys ↔ last? Call.keyed? k.column calls = some (.addForeignKey k)
  order : t.foreignKeys.map (·.column) = (calls.filterMap Call.keyed?).dedup

section

variable {α : Type} {on : Call → Option String} (nameOf : α → String) {make : α → Call}
  {as : List α} {calls : List Call} {call : Call} {name : String}

theorem last?_of_on (h : on call = some name) : last? on name (calls ++ [call]) = some call := by
  simp [last?, h]

theorem last?_of_not_on (h : on call ≠ some name) :
    last? on name (calls ++ [call]) = last? on name calls := by
  simp [last?, h]

theorem mem_iff_last?_of_made (h : ∀ a, a ∈ as ↔ last? on (nameOf a) calls = some (make a))
    (hon : ∀ a, on (make a) = some (nameOf a)) (hmake : Function.Injective make) (new a : α) :
    (a = new ∨ a ∈ as ∧ nameOf a ≠ nameOf new) ↔
      last? on (nameOf a) (calls ++ [make new]) = some (make a) := by
  by_cases hname : nameOf a = nameOf new
  · rw [hname, last?_of_on (hon new), Option.some_inj, hmake.eq_iff]
    constructor
    · rintro (rfl | ⟨-, hne⟩)
      · rfl
      · exact absurd rfl hne
    · rintro rfl
      exact Or.inl rfl
  · have hnot : on (make new) ≠ some (nameOf a) := by
      rw [hon, ne_eq, Option.some_inj]
      exact Ne.symm hname
    rw [last?_of_not_on hnot, ← h]
    constructor
    · rintro (rfl | ⟨ha, -⟩)
      · exact absurd rfl hname
      · exact ha
    · intro ha
      exact Or.inr ⟨ha, hname⟩

/-- A call of another kind takes back all before it on its name. -/
theorem mem_iff_last?_of_other (h : ∀ a, a ∈ as ↔ last? on (nameOf a) calls = some (make a))
    (hcall : on call = some name) (hmake : ∀ a, call ≠ make a) (a : α) :
    a ∈ as ∧ nameOf a ≠ name ↔ last? on (nameOf a) (calls ++ [call]) = some (make a) := by
  by_cases hname : nameOf a = name
  · rw [hname, last?_of_on hcall, Option.some_inj]
    exact iff_of_false (fun hne => hne.2 rfl) (hmake a)
  · have hnot : on call ≠ some (nameOf a) := by
      rw [hcall, ne_eq, Option.some_inj]
      exact Ne.symm hname
    rw [last?_of_not_on hnot, ← h]
    exact and_iff_left hname

end

theorem dedup_concat (names : List String) (name : String) :
    (names ++ [name]).dedup = names.dedup.filter (· ≠ name) ++ [name] := by
  induction names with
  | nil => rfl
  | cons other names ih =>
    rw [List.cons_append, List.dedup_cons, ih, List.dedup_cons]
    by_cases hname : other = name
    · subst hname
      by_cases hmem : other ∈ names <;> simp [hmem]
    · by_cases hmem : other ∈ names <;> simp [hmem, hname]

theorem described_concat (name : String) (calls : List Call) (call : Call) :
    described name (calls ++ [call]) = (described name calls).after call := by
  rw [described, List.foldl_append]
  rfl

section

variable {t u : Table} {calls : List Call} {call : Call}

namespace ColumnsFollow

theorem new (name : String) : (Table.new name).ColumnsFollow [] where
  last _ := iff_of_false List.not_mem_nil nofun
  order := rfl

theorem keep (h : t.ColumnsFollow calls) (hcolumns : u.columns = t.columns)
    (hcall : call.added? = none) : u.ColumnsFollow (calls ++ [call]) where
  last c := by
    rw [hcolumns, last?_of_not_on (hcall ▸ nofun)]
    exact h.last c
  order := by
    rw [hcolumns, List.filterMap_append, List.filterMap_cons_none hcall, List.filterMap_nil,
      List.append_nil]
    exact h.order

theorem addColumn (h : t.ColumnsFollow calls) (ht : t.NamesDiffer) (c : Column) :
    (t.addColumn c).ColumnsFollow (calls ++ [.addColumn c]) where
  last d := by
    rw [Table.addColumn, Column.mem_replaceIn ht]
    exact mem_iff_last?_of_made _ h.last (fun _ => rfl) (fun _ _ => Call.addColumn.inj) c d
  order := by
    have hadded : [Call.addColumn c].filterMap Call.added? = [c.name] := rfl
    rw [List.filterMap_append, hadded, eraseDups_concat, Table.addColumn, Column.names_replaceIn,
      h.order]
    simp only [List.mem_eraseDups]

theorem after (h : t.ColumnsFollow calls) (ht : t.NamesDiffer) (call : Call) :
    (t.after call).ColumnsFollow (calls ++ [call]) := by
  cases call with
  | addColumn c => exact h.addColumn ht c
  | engine | charset | dropColumn | alterColumn | addForeignKey | primaryKey =>
    exact h.keep rfl rfl

end ColumnsFollow

namespace RequestsFollow

theorem new (name : String) : (Table.new name).RequestsFollow [] where
  drops _ := iff_of_false List.not_mem_nil nofun
  changes _ := iff_of_false List.not_mem_nil nofun

theorem keep (h : t.RequestsFollow calls) (hdrops : u.droppedColumns = t.droppedColumns)
    (hchanges : u.alteredColumns = t.alteredColumns) (hcall : call.requested? = none) :
    u.RequestsFollow (calls ++ [call]) where
  drops name := by
    rw [hdrops, last?_of_not_on (hcall ▸ nofun)]
    exact h.drops name
  changes c := by
    rw [hchanges, last?_of_not_on (hcall ▸ nofun)]
    exact h.changes c

theorem dropColumn (h : t.RequestsFollow calls) (name : String) :
    (t.dropColumn name).RequestsFollow (calls ++ [.dropColumn name]) where
  drops other := by
    refine Iff.trans ?_
      (mem_iff_last?_of_made id h.drops (fun _ => rfl) (fun _ _ => Call.dropColumn.inj) name other)
    simp only [Table.dropColumn, List.contains_iff_mem, id]
    split <;> grind
  changes c := by
    refine Iff.trans ?_ (mem_iff_last?_of_other _ h.changes rfl (by simp) c)
    simp [Table.dropColumn]

theorem alterColumn (h : t.RequestsFollow calls) (ht : (t.alteredColumns.map (·.name)).Nodup)
    (c : Column) : (t.alterColumn c).RequestsFollow (calls ++ [.alterColumn c]) where
  drops name := by
    refine Iff.trans ?_ (mem_iff_last?_of_other id h.drops rfl (by simp) name)
    simp [Table.alterColumn]
  changes d := by
    rw [Table.alterColumn, Column.mem_replaceIn ht]
    exact mem_iff_last?_of_made _ h.changes (fun _ => rfl) (fun _ _ => Call.alterColumn.inj) c d

theorem after (h : t.RequestsFollow calls) (ht : (t.alteredColumns.map (·.name)).Nodup)
    (call : Call) : (t.after call).RequestsFollow (calls ++ [call]) := by
  cases call with
  | dropColumn name => exact h.dropColumn name
  | alterColumn c => exact h.alterColumn ht c
  | engine | charset | addColumn | addForeignKey | primaryKey => exact h.keep rfl rfl rfl

theorem apart (h : t.RequestsFollow calls) : ∀ c ∈ t.alteredColumns, c.name ∉ t.droppedColumns := by
  intro c hchange hdrop
  have hlast := ((h.changes c).mp hchange).symm.trans ((h.drops c.name).mp hdrop)
  cases hlast

end RequestsFollow

namespace KeysFollow

theorem new (name : String) : (Table.new name).KeysFollow [] where
  last _ := iff_of_false List.not_mem_nil nofun
  order := rfl

theorem keep (h : t.KeysFollow calls) (hkeys : u.foreignKeys = t.foreignKeys)
    (hcall : call.keyed? = none) : u.KeysFollow (calls ++ [call]) where
  last k := by
    rw [hkeys, last?_of_not_on (hcall ▸ nofun)]
    exact h.last k
  order := by
    rw [hkeys, List.filterMap_append, List.filterMap_cons_none hcall, List.filterMap_nil,
      List.append_nil]
    exact h.order

theorem addForeignKey (h : t.KeysFollow calls) (k : ForeignKey) :
    (t.addForeignKey k).KeysFollow (calls ++ [.addForeignKey k]) where
  last l := by
    rw [← mem_iff_last?_of_made _ h.last (fun _ => rfl) (fun _ _ => Call.addForeignKey.inj) k l]
    simp [Table.addForeignKey, or_comm]
  order := by
    have hkeyed : [Call.addForeignKey k].filterMap Call.keyed? = [k.column] := rfl
    rw [List.filterMap_append, hkeyed, dedup_concat, ← h.order, List.filter_map,
      Table.addForeignKey, List.map_append]
    rfl

theorem after (h : t.KeysFollow calls) (call : Call) :
    (t.after call).KeysFollow (calls ++ [call]) := by
  cases call with
  | addForeignKey k => exact h.addForeignKey k
  | engine | charset | addColumn | dropColumn | alterColumn | primaryKey => exact h.keep rfl rfl

end KeysFollow

end

/-- A table keeps of all calls what the last on each name ask for, and no two requests of one kind
have one name. -/
theorem described_follows (name : String) (calls : List Call) :
    let t := described name calls
    t.RequestsDiffer ∧ (t.foreignKeys.map (·.column)).Nodup ∧
      (∀ c ∈ t.alteredColumns, c.name ∉ t.droppedColumns) ∧
      t.ColumnsFollow calls ∧ t.RequestsFollow calls ∧ t.KeysFollow calls := by
  intro t
  have hfollows : t.ColumnsFollow calls ∧ t.RequestsFollow calls ∧ t.KeysFollow calls := by
    unfold t
    induction calls using List.reverseRecOn with
    | nil => exact ⟨.new name, .new name, .new name⟩
    | append_singleton calls call ih =>
      obtain ⟨hcolumns, hrequests, hkeys⟩ := ih
      have hdiffer := requestsDiffer_described name calls
      rw [described_concat]
      exact ⟨hcolumns.after hdiffer.columns call, hrequests.after hdiffer.changes call,
        hkeys.after call⟩
  obtain ⟨hcolumns, hrequests, hkeys⟩ := hfollows
  refine ⟨requestsDiffer_described name calls, ?_, hrequests.apart, hcolumns, hrequests, hkeys⟩
  rw [hkeys.order]
  exact List.nodup_dedup _

end Table

end BoundSql
