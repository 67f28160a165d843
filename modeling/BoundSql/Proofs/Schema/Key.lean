import BoundSql.Proofs.Agreement
import BoundSql.Proofs.Schema.Alike

/-! # The key of a new table

The columns of a new table are defined from left to right and a column may claim the key midway, so
what is written about a column depends on those before it. As long as no two columns share a name,
the order does not matter: the key can be settled from the whole table first, and every column
defined under it.
-/

namespace BoundSql

def Table.NamesDiffer (t : Table) : Prop :=
  (t.columns.map (·.name)).Nodup

instance (t : Table) : Decidable t.NamesDiffer :=
  inferInstanceAs (Decidable (t.columns.map (·.name)).Nodup)

theorem Column.names_replaceIn (c : Column) (cs : List Column) :
    (c.replaceIn cs).map (·.name) =
      if c.name ∈ cs.map (·.name) then cs.map (·.name) else cs.map (·.name) ++ [c.name] := by
  induction cs with
  | nil => simp [replaceIn]
  | cons d rest ih =>
    by_cases hd : d.name = c.name
    · simp [replaceIn, hd]
    · have hc : c.name ≠ d.name := Ne.symm hd
      simp only [replaceIn, if_neg hd, List.map_cons, ih, List.mem_cons, hc, false_or]
      split <;> rfl

theorem Column.nodup_replaceIn {cs : List Column} (h : (cs.map (·.name)).Nodup) (c : Column) :
    ((c.replaceIn cs).map (·.name)).Nodup := by
  rw [names_replaceIn]
  split
  next => exact h
  next hc => exact List.nodup_append.mpr ⟨h, List.pairwise_singleton .., by
    rintro _ hn _ hm rfl
    exact hc (List.mem_singleton.mp hm ▸ hn)⟩

namespace Table.NamesDiffer

theorem new (name : String) : (Table.new name).NamesDiffer :=
  List.nodup_nil

theorem addColumn {t : Table} (h : t.NamesDiffer) (c : Column) : (t.addColumn c).NamesDiffer :=
  Column.nodup_replaceIn h c

theorem addColumns {t : Table} (h : t.NamesDiffer) (cs : List Column) :
    (cs.foldl Table.addColumn t).NamesDiffer := by
  induction cs generalizing t with
  | nil => exact h
  | cons c cs ih => exact ih (h.addColumn c)

end Table.NamesDiffer

namespace Schema

section

variable {c : Column} {cs : List Column}

/-- The key after some columns, given the key before them. -/
def settledKey (cs : List Column) (key : Option String) : Option String :=
  key.or ((cs.find? (·.autoIncrement == .on)).map (·.name))

theorem settledKey_cons (key : Option String) :
    settledKey (c :: cs) key = settledKey cs (claimKey c key) := by
  cases key with
  | some _ => rfl
  | none =>
    cases hc : c.autoIncrement == .on <;> simp [settledKey, claimKey, hc]

theorem settledKey_mem {name : String} (h : settledKey cs none = some name) :
    name ∈ cs.map (·.name) := by
  obtain ⟨c, hc, rfl⟩ := Option.map_eq_some_iff.mp h
  exact List.mem_map_of_mem (List.mem_of_find?_eq_some hc)

theorem autoIncrement_ne_on {key : Option String} (h : settledKey cs key = none) (hc : c ∈ cs) :
    c.autoIncrement ≠ .on := by
  rw [settledKey, Option.or_eq_none_iff, Option.map_eq_none_iff] at h
  exact fun hon => List.find?_eq_none.mp h.2 c hc (beq_iff_eq.mpr hon)

/-- A column counts up under the key so far if it does under the key in the end: later columns have
other names. -/
theorem countsUp_settledKey (hc : c.name ∉ cs.map (·.name)) (key : Option String) :
    countsUp c (settledKey (c :: cs) key) = countsUp c key := by
  cases key with
  | some _ => rfl
  | none =>
    rw [settledKey_cons]
    by_cases hon : c.autoIncrement = .on
    · simp [claimKey, settledKey, countsUp, hon]
    · have hoff : (c.autoIncrement == .on) = false := beq_eq_false_iff_ne.mpr hon
      rw [claimKey, hoff, if_neg Bool.false_ne_true, countsUp, hoff]
      cases hlater : settledKey cs none with
      | none => exact hoff
      | some name =>
        have hne : name ≠ c.name := fun h => hc (h ▸ settledKey_mem hlater)
        rw [countsUp, beq_eq_false_iff_ne.mpr hne, Bool.false_and]

theorem define_settledKey (hc : c.name ∉ cs.map (·.name)) (key : Option String) :
    define c (settledKey (c :: cs) key) = define c key := by
  rw [define, define, countsUp_settledKey hc]

/-- The loop over the columns, which may claim the key midway, defines each column under the key in
the end. -/
theorem defineAll_eq_mapM (h : (cs.map (·.name)).Nodup) (key : Option String) :
    defineAll cs key = (cs.mapM (define · (settledKey cs key))).map (·, settledKey cs key) := by
  induction cs generalizing key with
  | nil => cases key <;> rfl
  | cons c cs ih =>
    obtain ⟨hc, hcs⟩ := List.nodup_cons.mp h
    -- The rest starts from the key that `c` leaves and comes to the same key in the end.
    rw [defineAll, ih hcs, ← settledKey_cons, List.mapM_cons, define_settledKey hc]
    cases define c key with
    | error e => rfl
    | ok d => cases cs.mapM (define · (settledKey (c :: cs) key)) <;> rfl

end

/-- The key of a new table: the last column marked as the primary key, else the column that the
table names, else the first column marked to count up. -/
def chosenKey (t : Table) : Option String :=
  ((t.columns.filter (·.primaryKey == .on)).getLast?.map (·.name)).or
    (t.primaryKey.or ((t.columns.filter (·.autoIncrement == .on)).head?.map (·.name)))

theorem declaredKey_eq (t : Table) :
    declaredKey t =
      ((t.columns.filter (·.primaryKey == .on)).getLast?.map (·.name)).or t.primaryKey := by
  rw [declaredKey, List.getLast?_eq_head?_reverse, ← List.filter_reverse, List.head?_filter]
  cases t.columns.reverse.find? (·.primaryKey == .on) <;> rfl

theorem settledKey_declaredKey (t : Table) :
    settledKey t.columns (declaredKey t) = chosenKey t := by
  rw [settledKey, declaredKey_eq, chosenKey, List.head?_filter, Option.or_assoc]

theorem isNone_column? {t : Table} {name : String} :
    (t.column? name).isNone ↔ name ∉ t.columns.map (·.name) := by
  simp [Table.column?]

theorem requireColumns_eq_ok {t : Table} {names : List String} :
    requireColumns t names = .ok () ↔ ∀ name ∈ names, name ∈ t.columns.map (·.name) := by
  rw [requireColumns]
  split
  next name hname =>
    refine iff_of_false (by intro h; cases h) fun h => ?_
    have hnone := List.find?_some hname
    exact isNone_column?.mp hnone (h name (List.mem_of_find?_eq_some hname))
  next hall =>
    refine iff_of_true rfl fun name hname => not_not.mp fun hn => ?_
    exact List.find?_eq_none.mp hall name hname (isNone_column?.mpr hn)

def Clause.key? : Clause → Option String
  | primaryKey name => some name
  | _ => none

def Clause.definition? : Clause → Option ColumnDefinition
  | column d => some d
  | _ => none

/-- The definition of a column keeps its name and counts up if the column is the key, unless it is
marked otherwise. -/
structure DefinedUnder (key : Option String) (c : Column) (d : ColumnDefinition) : Prop where
  name : d.name = c.name
  autoIncrement : d.autoIncrement = true ↔ key = some c.name ∧ c.autoIncrement ≠ .off

structure PlacesKey (t : Table) (key : Option String) (clauses : List Clause) : Prop where
  keyed : clauses.filterMap Clause.key? = key.toList
  isColumn : ∀ name ∈ key, name ∈ t.columns.map (·.name)
  defined : List.Forall₂ (DefinedUnder key) t.columns (clauses.filterMap Clause.definition?)
  /-- At most one column counts up, and it is the key. -/
  single : (((clauses.filterMap Clause.definition?).filter (·.autoIncrement)).map (·.name)).Sublist
    key.toList

section

variable {t u : Table} {key : Option String} {c : Column} {d : ColumnDefinition}
  {ds : List ColumnDefinition} {ks : List ForeignKey} {clauses : List Clause}

theorem filterMap_key? : (ds.map Clause.column ++ keyClause key ++
    ks.map Clause.foreignKey).filterMap Clause.key? = key.toList := by
  have hcolumns : (ds.map Clause.column).filterMap Clause.key? = [] := by
    simp [Clause.key?]
  have hforeign : (ks.map Clause.foreignKey).filterMap Clause.key? = [] := by
    simp [Clause.key?]
  rw [List.filterMap_append, List.filterMap_append, hcolumns, hforeign, List.append_nil]
  cases key <;> rfl

theorem filterMap_definition? : (ds.map Clause.column ++ keyClause key ++
    ks.map Clause.foreignKey).filterMap Clause.definition? = ds := by
  have hkey : (keyClause key).filterMap Clause.definition? = [] := by
    cases key <;> rfl
  have hforeign : (ks.map Clause.foreignKey).filterMap Clause.definition? = [] := by
    simp [Clause.definition?]
  rw [List.filterMap_append, List.filterMap_append, hkey, hforeign, List.append_nil,
    List.append_nil, List.filterMap_map]
  exact List.filterMap_some

theorem countsUp_iff (h : key = none → c.autoIncrement ≠ .on) :
    countsUp c key = true ↔ key = some c.name ∧ c.autoIncrement ≠ .off := by
  cases key with
  | none => simp [countsUp, h rfl]
  | some name => simp [countsUp]

theorem definedUnder_of_define (h : key = none → c.autoIncrement ≠ .on)
    (hd : define c key = .ok d) : DefinedUnder key c d := by
  obtain ⟨type, -, hd⟩ := bind_eq_ok.mp hd
  obtain rfl := Except.ok.inj hd
  exact ⟨rfl, countsUp_iff h⟩

theorem sublist_toList {names : List String} (hnames : names.Nodup)
    (h : ∀ name ∈ names, key = some name) : names.Sublist key.toList := by
  match names with
  | [] => exact List.nil_sublist _
  | name :: rest =>
    obtain rfl := h name List.mem_cons_self
    have hrest : rest = [] := List.eq_nil_iff_forall_not_mem.mpr fun other hother => by
      obtain rfl := Option.some.inj (h other (List.mem_cons_of_mem _ hother))
      exact (List.nodup_cons.mp hnames).1 hother
    rw [hrest]
    exact List.Sublist.refl _

theorem DefinedUnder.names {cs : List Column} (h : List.Forall₂ (DefinedUnder key) cs ds) :
    ds.map (·.name) = cs.map (·.name) :=
  (map_eq_of_forall₂ (fun _ _ hcd => hcd.name.symm) h).symm

theorem DefinedUnder.eq_key {cs : List Column} (h : List.Forall₂ (DefinedUnder key) cs ds)
    (hd : d ∈ ds) (hauto : d.autoIncrement = true) : key = some d.name := by
  induction h with
  | nil => cases hd
  | cons hcd _ ih =>
    cases hd with
    | head => exact hcd.name ▸ (hcd.autoIncrement.mp hauto).1
    | tail _ hd => exact ih hd

theorem DefinedUnder.counting_sublist {cs : List Column} (hcs : (cs.map (·.name)).Nodup)
    (h : List.Forall₂ (DefinedUnder key) cs ds) :
    ((ds.filter (·.autoIncrement)).map (·.name)).Sublist key.toList := by
  refine sublist_toList ?_ fun name hname => ?_
  · have hnames : (ds.map (·.name)).Nodup := DefinedUnder.names h ▸ hcs
    exact hnames.sublist (List.filter_sublist.map _)
  · obtain ⟨d, hd, rfl⟩ := List.mem_map.mp hname
    obtain ⟨hd, hauto⟩ := List.mem_filter.mp hd
    exact DefinedUnder.eq_key h hd hauto

theorem placesKey_of_forall₂ (ht : t.NamesDiffer)
    (hkey : ∀ name ∈ key, name ∈ t.columns.map (·.name))
    (hds : List.Forall₂ (DefinedUnder key) t.columns ds) :
    PlacesKey t key (ds.map .column ++ keyClause key ++ ks.map .foreignKey) where
  keyed := filterMap_key?
  isColumn := hkey
  defined := by rwa [filterMap_definition?]
  single := by
    rw [filterMap_definition?]
    exact DefinedUnder.counting_sublist ht hds

theorem declaredKey_mem (h : checkDefinition t = .ok ()) :
    ∀ name ∈ declaredKey t, name ∈ t.columns.map (·.name) := by
  obtain ⟨⟨⟩, -, h⟩ := bind_eq_ok.mp h
  by_cases he : Text.blank t.engine
  · simp only [if_pos he] at h
    cases h
  by_cases hc : t.columns.isEmpty
  · simp only [if_neg he, if_pos hc] at h
    cases h
  simp only [if_neg he, if_neg hc] at h
  obtain ⟨⟨⟩, hkey, -⟩ := bind_eq_ok.mp h
  intro name hname
  exact requireColumns_eq_ok.mp hkey name (Option.mem_toList.mpr hname)

theorem chosenKey_mem (h : ∀ name ∈ declaredKey t, name ∈ t.columns.map (·.name)) :
    ∀ name ∈ chosenKey t, name ∈ t.columns.map (·.name) := by
  intro name hname
  rw [← settledKey_declaredKey] at hname
  cases hdeclared : declaredKey t with
  | none => exact settledKey_mem (hdeclared ▸ hname)
  | some declared =>
    rw [hdeclared] at hname
    obtain rfl := Option.some.inj hname
    exact h _ hdeclared

theorem recordKey_chosenKey (t : Table) :
    recordKey t (chosenKey t) = { t with primaryKey := chosenKey t } := by
  cases hkey : chosenKey t with
  | some key => rfl
  | none =>
    have hnone : t.primaryKey = none := by
      rw [chosenKey, Option.or_eq_none_iff, Option.or_eq_none_iff] at hkey
      exact hkey.2.1
    rw [recordKey, ← hnone]

theorem definition_placesKey (ht : t.NamesDiffer) (h : definition t = .ok (clauses, key)) :
    key = chosenKey t ∧ PlacesKey t (chosenKey t) clauses := by
  rw [definition_eq, defineAll_eq_mapM ht, settledKey_declaredKey] at h
  obtain ⟨⟨⟩, hcheck, h⟩ := bind_eq_ok.mp h
  obtain ⟨⟨columns, last⟩, hcolumns, h⟩ := map_eq_ok.mp h
  obtain ⟨ds, hds, hlast⟩ := map_eq_ok.mp hcolumns
  cases hlast
  cases h
  refine ⟨rfl, placesKey_of_forall₂ ht (chosenKey_mem (declaredKey_mem hcheck)) ?_⟩
  refine ((List.forall₂_and_left (p := fun c : Column => c ∈ t.columns) _ _).mpr
    ⟨fun _ h => h, (mapM_eq_ok.mp hds).flip⟩).imp fun c d hcd => ?_
  refine definedUnder_of_define (fun hnone => ?_) hcd.2
  exact autoIncrement_ne_on (settledKey_declaredKey t ▸ hnone) hcd.1

end

/-- Tables whose columns are added one by one have columns of different names. For every table of
this kind, a creation that succeeds settles its key by a rule that does not look at the order in
which the columns are defined. -/
theorem create_placesKey :
    (∀ (name : String) (columns : List Column),
      (columns.foldl Table.addColumn (.new name)).NamesDiffer) ∧
    ∀ {t u : Table} {mode : CreateMode} {statements : List Statement},
      t.NamesDiffer → create t mode = .ok (statements, u) →
      ∃ clauses, definition t = .ok (clauses, chosenKey t) ∧
        statements = (if mode = .dropIfExists then [⟨dropSql t.name, []⟩] else []) ++
          [⟨(creation t mode clauses).sql, []⟩] ∧
        PlacesKey t (chosenKey t) clauses ∧
        u = { t with primaryKey := chosenKey t } := by
  refine ⟨fun name columns => (Table.NamesDiffer.new name).addColumns columns, ?_⟩
  intro t u mode statements ht h
  obtain ⟨⟨clauses, key⟩, hdefinition, h⟩ := bind_eq_ok.mp h
  obtain ⟨rfl, hplaces⟩ := definition_placesKey ht hdefinition
  obtain ⟨rfl, rfl⟩ := Prod.mk.inj (Except.ok.inj h)
  refine ⟨clauses, hdefinition, ?_, hplaces, recordKey_chosenKey t⟩
  cases mode <;> rfl

/-- The second of three columns claims the key, and the third, marked to count up as well, does
not. -/
def journal : Table :=
  [{ name := "body", type := some .text },
    { name := "id", type := some .bigInt, length := some (.size 20), autoIncrement := .on },
    { name := "page", type := some .int, length := some (.size 10), autoIncrement := .on }].foldl
      Table.addColumn (.new "journal")

def journalStatements : List Statement :=
  [⟨"DROP TABLE IF EXISTS journal;", []⟩,
    ⟨"CREATE TABLE journal (body TEXT, id BIGINT(20) AUTO_INCREMENT, page INT(10), " ++
      "PRIMARY KEY(id)) ENGINE=InnoDB DEFAULT CHARSET=utf8;", []⟩]

theorem create_placesKey_of_journal :
    journal.NamesDiffer ∧
    create journal .dropIfExists =
      .ok (journalStatements, { journal with primaryKey := some "id" }) ∧
    ∃ clauses, definition journal = .ok (clauses, some "id") ∧
      PlacesKey journal (some "id") clauses := by
  have hnames : journal.NamesDiffer := create_placesKey.1 _ _
  have hcreate : create journal .dropIfExists =
      .ok (journalStatements, { journal with primaryKey := some "id" }) := by
    decide +kernel
  have hchosen : chosenKey journal = some "id" := by
    decide
  obtain ⟨clauses, hdefinition, -, hplaces, -⟩ := create_placesKey.2 hnames hcreate
  exact ⟨hnames, hcreate, clauses, hchosen ▸ hdefinition, hchosen ▸ hplaces⟩

end Schema

end BoundSql
