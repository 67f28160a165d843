import BoundSql.Proofs.Schema.Alteration
import BoundSql.Proofs.Text.Pieces
import BoundSql.Schema.Index

/-! # Acceptance of indexes

The entries of an index are what stands between the commas of one text, blank entries left out. An
entry is looked up by the name at its front, which ends at the first character other than a letter
A to Z, a digit, `_` and `-`: what follows is written as it stands and is not looked at.
-/

namespace BoundSql.Schema

/-- The entries that a column text lists: one for each piece between commas that is not blank, the
piece without the white space around it. -/
def Lists (columns : String) (entries : List String) : Prop :=
  ∃ pieces cores, Text.CutInto ',' columns pieces ∧ List.Forall₂ Text.TrimsTo pieces cores ∧
    entries = cores.filter (· ≠ "")

/-- The name at the front of an entry is the longest one that is there. -/
def LeadsWith (entry name : String) : Prop :=
  ∃ rest, entry = name ++ rest ∧ (∀ c ∈ name.toList, isNameChar c) ∧
    ∀ c ∈ rest.toList.head?, ¬ isNameChar c

/-- A name that is that of a described or of a physical column, in any case. -/
def Indexable (t : Table) (current : List PhysicalColumn) (name : String) : Prop :=
  (∃ c ∈ t.columns, Text.sameName c.name name) ∨ PhysicalColumn.Named current name

instance (t : Table) (current : List PhysicalColumn) (name : String) :
    Decidable (Indexable t current name) :=
  inferInstanceAs (Decidable (_ ∨ _))

def Indexes (t : Table) (current : List PhysicalColumn) (entry : String) : Prop :=
  leadingName entry ≠ "" ∧ Indexable t current (leadingName entry)

instance (t : Table) (current : List PhysicalColumn) (entry : String) :
    Decidable (Indexes t current entry) :=
  inferInstanceAs (Decidable (_ ∧ _))

/-- The name that an entry is refused for: the one at its front, or all of it if none is there. -/
def refusedName (entry : String) : String :=
  if leadingName entry = "" then entry else leadingName entry

section

variable (t : Table) (current : List PhysicalColumn) (name columns : String)

def entryProblems (entry : String) : List Error :=
  problemIf (¬ Indexes t current entry) (.unknownColumn t.name (refusedName entry))

def indexProblems : List Error :=
  problemIf (Text.blank t.name) (.incomplete .tableName) ++
  (problemIf (Text.blank name) (.incomplete (.indexName t.name)) ++
  (problemIf (indexEntries columns = []) (.incomplete (.indexColumns name)) ++
  (indexEntries columns).flatMap (entryProblems t current)))

structure IndexMade : Prop where
  table : ¬ Text.blank t.name
  named : ¬ Text.blank name
  entries : indexEntries columns ≠ []
  known : ∀ entry ∈ indexEntries columns, Indexes t current entry

def IndexAccepted (unique : Bool) : Prop :=
  ∃ st, addIndex t current name columns unique = .ok st

def indexStatement (unique : Bool) : Statement :=
  ⟨"CREATE " ++ (if unique then "UNIQUE " else "") ++ "INDEX " ++ Text.trim name ++ " ON " ++
    t.name ++ " (" ++ ", ".intercalate (indexEntries columns) ++ ");", []⟩

end

section

variable {t : Table} {current : List PhysicalColumn} {name columns entry : String}

theorem lists_iff {entries : List String} :
    Lists columns entries ↔ indexEntries columns = entries := by
  have hcores (pieces cores : List String) :
      List.Forall₂ Text.TrimsTo pieces cores ↔ pieces.map Text.trim = cores := by
    have htrims : Text.TrimsTo = fun piece core => Text.trim piece = core := by
      funext piece core
      exact propext Text.trimsTo_iff
    rw [htrims, ← List.forall₂_map_left_iff, List.forall₂_eq_eq_eq]
  have hshown (cores : List String) : cores.filter (!·.isEmpty) = cores.filter (· ≠ "") := by
    refine List.filter_congr fun core _ => ?_
    rw [Bool.eq_iff_iff, Bool.not_eq_true', ← Bool.not_eq_true, String.isEmpty_iff,
      decide_eq_true_iff]
  rw [indexEntries, hshown]
  constructor
  · rintro ⟨pieces, cores, hpieces, htrims, rfl⟩
    rw [Text.cutInto_iff.mp hpieces, (hcores pieces cores).mp htrims]
  · rintro rfl
    exact ⟨_, _, Text.cutInto_iff.mpr rfl, (hcores _ _).mpr rfl, rfl⟩

theorem leadsWith_iff {run : String} : LeadsWith entry run ↔ leadingName entry = run := by
  constructor
  · rintro ⟨rest, rfl, hrun, hrest⟩
    rw [leadingName, String.toList_append, (Text.takeWhile_dropWhile_of_append hrun hrest).1,
      String.ofList_toList]
  · rintro rfl
    refine ⟨.ofList (entry.toList.dropWhile isNameChar), ?_, ?_, ?_⟩
    · rw [leadingName, ← String.ofList_append, List.takeWhile_append_dropWhile,
        String.ofList_toList]
    · intro c hc
      rw [leadingName, String.toList_ofList] at hc
      exact List.mem_takeWhile_imp hc
    · intro c hc
      rw [String.toList_ofList] at hc
      exact Text.not_of_mem_head?_dropWhile hc

theorem isIndexable_iff : isIndexable t current name = true ↔ Indexable t current name := by
  simp [isIndexable, Indexable, PhysicalColumn.Named]

theorem indexProblems_eq_nil :
    indexProblems t current name columns = [] ↔ IndexMade t current name columns := by
  simp only [indexProblems, entryProblems, List.append_eq_nil_iff, List.flatMap_eq_nil_iff,
    problemIf_eq_nil, not_not]
  constructor
  · rintro ⟨table, named, entries, known⟩
    exact ⟨table, named, entries, known⟩
  · rintro ⟨table, named, entries, known⟩
    exact ⟨table, named, entries, known⟩

theorem settled_checkEntry (entry : String) :
    Settled (fun _ => True) (entryProblems t current entry) (checkEntry t current entry) := by
  have h : checkEntry t current entry =
      if ¬ Indexes t current entry then .error (.unknownColumn t.name (refusedName entry))
      else .ok () := by
    by_cases hname : leadingName entry = ""
    · simp [checkEntry, Indexes, refusedName, unknownColumn, hname]
    · by_cases hknown : Indexable t current (leadingName entry)
      · simp [checkEntry, Indexes, hname, isIndexable_iff.mpr hknown, hknown]
      · have hunknown := isIndexable_iff.not.mpr hknown
        simp [checkEntry, Indexes, refusedName, unknownColumn, hname, hunknown, hknown]
  rw [h]
  exact .guard_last fun _ => .ok trivial

theorem settled_addIndex (unique : Bool) :
    Settled (· = indexStatement t name columns unique) (indexProblems t current name columns)
      (addIndex t current name columns unique) := by
  have h : addIndex t current name columns unique = requireName t >>= fun _ =>
      if Text.blank name then .error (.incomplete (.indexName t.name))
      else if indexEntries columns = [] then .error (.incomplete (.indexColumns name))
      else (indexEntries columns).forM (checkEntry t current) >>= fun _ =>
        .ok (indexStatement t name columns unique) := by
    delta addIndex indexStatement
    cases indexEntries columns <;> rfl
  rw [h]
  refine settled_requireName.bind fun _ _ => .guard fun _ => .guard fun _ => ?_
  exact (Settled.forM fun entry _ => settled_checkEntry entry).bind_last fun _ _ => .ok rfl

end

/-- An index is made exactly if the table and the index have names and the column text lists
entries, each with the name of a column at its front. It lists all of them and nothing else. Any
other index is refused for the first thing that is wrong. -/
theorem addIndex_accepts (t : Table) (current : List PhysicalColumn) (name columns : String)
    (unique : Bool) :
    (∀ entries, Lists columns entries ↔ indexEntries columns = entries) ∧
      (∀ entry run, LeadsWith entry run ↔ leadingName entry = run) ∧
      (∀ st, addIndex t current name columns unique = .ok st ↔
        IndexMade t current name columns ∧ st = indexStatement t name columns unique) ∧
      ∀ e, addIndex t current name columns unique = .error e ↔
        (indexProblems t current name columns).head? = some e := by
  have hsettled : Settled (· = indexStatement t name columns unique)
      (indexProblems t current name columns) (addIndex t current name columns unique) :=
    settled_addIndex unique
  refine ⟨fun _ => lists_iff, fun _ _ => leadsWith_iff, fun st => ?_, hsettled.eq_error_iff⟩
  rw [← indexProblems_eq_nil, ← hsettled.exists_eq_ok_iff]
  constructor
  · intro hst
    exact ⟨⟨st, hst⟩, hsettled.of_eq_ok hst⟩
  · rintro ⟨⟨made, hmade⟩, rfl⟩
    rw [hmade, hsettled.of_eq_ok hmade]

example :
    let current : List PhysicalColumn := [⟨"Email", "varchar(255)", true, "", none, ""⟩]
    addIndex (.new "users") current " idx_email " " , email(10) DESC" true =
      .ok ⟨"CREATE UNIQUE INDEX idx_email ON users (email(10) DESC);", []⟩ := by
  decide +kernel

/-- A name without white space, commas and brackets. -/
structure Bare (entry : String) : Prop where
  ne_empty : entry ≠ ""
  shown : ∀ c ∈ entry.toList, ¬ Text.isBlank c
  plain : ∀ c ∈ entry.toList, c ≠ ',' ∧ c ≠ '(' ∧ c ≠ ')'

section

variable {t : Table} {current : List PhysicalColumn} {name entry : String}

theorem bare_iff : Bare entry ↔ entry ≠ "" ∧
    entry.toList.all fun c => !Text.isBlank c && (c != ',' && c != '(' && c != ')') := by
  simp only [List.all_eq_true, Bool.and_eq_true, Bool.not_eq_true', bne_iff_ne, and_assoc]
  constructor
  · rintro ⟨hne, hshown, hplain⟩
    exact ⟨hne, fun c hc => ⟨(Bool.not_eq_true _).mp (hshown c hc), hplain c hc⟩⟩
  · rintro ⟨hne, hall⟩
    exact ⟨hne, fun c hc => (Bool.not_eq_true _).mpr (hall c hc).1, fun c hc => (hall c hc).2⟩

instance (entry : String) : Decidable (Bare entry) :=
  decidable_of_iff _ bare_iff.symm

theorem indexEntries_of_bare (h : Bare entry) : indexEntries entry = [entry] := by
  refine lists_iff.mp ⟨[entry], [entry], ?_, ?_, ?_⟩
  · refine ⟨List.cons_ne_nil _ _, ?_, String.intercalate_singleton⟩
    rintro piece hpiece hcomma
    obtain rfl := List.mem_singleton.mp hpiece
    exact (h.plain ',' hcomma).1 rfl
  · refine .cons ⟨⟨"", "", by simp, rfl, rfl⟩, ?_, ?_⟩ .nil
    · intro c hc
      exact h.shown c (List.mem_of_mem_head? hc)
    · intro c hc
      exact h.shown c (List.mem_of_mem_getLast? hc)
  · simp [h.ne_empty]

theorem indexAccepted_of_bare (ht : ¬ Text.blank t.name) (hname : ¬ Text.blank name)
    (h : Bare entry) (unique : Bool) :
    IndexAccepted t current name entry unique ↔ Indexes t current entry := by
  rw [IndexAccepted, (settled_addIndex unique).exists_eq_ok_iff, indexProblems_eq_nil]
  constructor
  · intro hmade
    exact hmade.known entry (by simp [indexEntries_of_bare h])
  · intro hentry
    refine ⟨ht, hname, ?_, ?_⟩
    · simp [indexEntries_of_bare h]
    · simpa [indexEntries_of_bare h] using hentry

theorem leadingName_eq_self_iff : leadingName entry = entry ↔ ∀ c ∈ entry.toList, isNameChar c := by
  rw [← String.toList_inj, leadingName, String.toList_ofList, List.takeWhile_eq_self_iff]

theorem leadingName_eq_self_of_sameName (h : Text.sameName (leadingName entry) entry) :
    leadingName entry = entry := by
  have hlength : (leadingName entry).toList.length = entry.toList.length := by
    have hlower := congrArg (·.toList.length) (Text.sameName_iff.mp h)
    simpa [Text.lower] using hlower
  have hfront : (leadingName entry).toList <+: entry.toList := by
    rw [leadingName, String.toList_ofList]
    exact List.takeWhile_prefix _
  exact String.toList_inj.mp (hfront.eq_of_length hlength)

/-- A bare name is looked up by what stands in front of its first character that is not one of
names. So it is looked up as a whole if it has no such character, and only then: else the column
that has it as its name is not found. -/
theorem bare_looked_up (name entry : String) (unique : Bool) (hname : ¬ Text.blank name)
    (hentry : Bare entry) :
    (∀ t current, ¬ Text.blank t.name →
      (IndexAccepted t current name entry unique ↔ Indexes t current entry)) ∧
    ((∀ t current, ¬ Text.blank t.name →
      (IndexAccepted t current name entry unique ↔ Indexable t current entry)) ↔
        ∀ c ∈ entry.toList, isNameChar c) := by
  have haccepted (t : Table) (current : List PhysicalColumn) (ht : ¬ Text.blank t.name) :
      IndexAccepted t current name entry unique ↔ Indexes t current entry :=
    indexAccepted_of_bare ht hname hentry unique
  refine ⟨haccepted, ?_⟩
  rw [← leadingName_eq_self_iff]
  constructor
  · intro h
    -- A table with the entry as its only column tells the two ways to look it up apart.
    have ht : ¬ Text.blank (Table.new "t").name := by decide
    have hfound : Indexable (.new "t") [⟨entry, "", true, "", none, ""⟩] entry :=
      Or.inr ⟨_, List.mem_singleton_self _, Text.sameName_refl entry⟩
    obtain ⟨-, hcolumn | ⟨p, hp, hsame⟩⟩ := (haccepted _ _ ht).mp ((h _ _ ht).mpr hfound)
    · obtain ⟨c, hc, -⟩ := hcolumn
      exact absurd hc List.not_mem_nil
    · obtain rfl := List.mem_singleton.mp hp
      rw [Text.sameName_comm] at hsame
      exact leadingName_eq_self_of_sameName hsame
  · intro hself t current ht
    rw [haccepted t current ht, Indexes, hself]
    exact and_iff_right hentry.ne_empty

theorem hyphen_looked_up :
    ¬ Text.blank "idx_made" ∧ Bare "made-at" ∧ ∀ t current, ¬ Text.blank t.name →
      (IndexAccepted t current "idx_made" "made-at" true ↔ Indexable t current "made-at") := by
  have hname : ¬ Text.blank "idx_made" := by decide
  have hentry : Bare "made-at" := by decide +kernel
  have hlooked := bare_looked_up "idx_made" "made-at" true hname hentry
  exact ⟨hname, hentry, hlooked.2.mpr (List.all_eq_true.mp (by decide +kernel))⟩

/-- Behind a dollar sign nothing is looked at: a column is not found, and one that is not there is
taken for another. -/
theorem dollar_hides_names :
    let t : Table := .new "accounts"
    let cash : List PhysicalColumn := [⟨"cash$", "int(10)", true, "", none, ""⟩]
    let cost : List PhysicalColumn := [⟨"cost", "int(10)", true, "", none, ""⟩]
    Bare "cash$" ∧ Indexable t cash "cash$" ∧
      addIndex t cash "idx_cash" "cash$" false = .error (.unknownColumn "accounts" "cash") ∧
      Bare "cost$" ∧ ¬ Indexable t cost "cost$" ∧
      addIndex t cost "idx_cost" "cost$" false =
        .ok ⟨"CREATE INDEX idx_cost ON accounts (cost$);", []⟩ := by
  decide +kernel

end

end BoundSql.Schema
