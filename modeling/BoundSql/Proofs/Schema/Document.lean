import BoundSql.Proofs.Table.Document
import BoundSql.Schema.Operation

/-! # Documents of schema operations

The reader of an operation keeps the members beside the one that names it as values, and reads the
details from the draft of these values once it knows the kind. Such a draft spells the values again,
so an operation is kept in its document like any record.
-/

namespace BoundSql

open Json (Draft Keeps Plain Recovers Spells SpellsMember)

namespace Json

mutual

theorem spells_draft : (j : Json) → Spells j.draft j
  | .null | .bool _ | .number _ | .string _ => rfl
  | .array items => .array (spells_itemDrafts items) 0 0
  | .object members => .object (spells_memberDrafts members) 0 0

theorem spells_itemDrafts : (items : List Json) → List.Forall₂ Spells (itemDrafts items) items
  | [] => .nil
  | j :: rest => .cons (spells_draft j) (spells_itemDrafts rest)

theorem spells_memberDrafts : (members : List (String × Json)) →
    List.Forall₂ SpellsMember (memberDrafts members) members
  | [] => .nil
  | (_, j) :: rest => .cons ⟨rfl, spells_draft j⟩ (spells_memberDrafts rest)

end

end Json

namespace Schema

theorem CreateMode.keeps (n : Nat) (mode : CreateMode) :
    Keeps n read (.string mode.keyword) mode := by
  refine ⟨fun d hd => ?_, .string n _⟩
  obtain ⟨span, rfl⟩ := hd.eq_string
  cases mode <;> rfl

namespace Operation

theorem readMembers_details {entries : List (Json.Name × Draft)} {details : List (String × Json)}
    (h : List.Forall₂ SpellsMember entries details)
    (hnames : ∀ member ∈ details, member.1 ≠ "operation") (kind : Option Kind) :
    readMembers entries kind = .ok (kind, details) := by
  induction h with
  | nil => rfl
  | @cons entry member _ _ hentry _ ih =>
    obtain ⟨name, d⟩ := entry
    rw [List.forall_mem_cons] at hnames
    have hvalue : d.whole = .ok member.2 := hentry.2
    rw [readMembers, hentry.1]
    simp only [Json.Read.ofExcept, bind, Except.bind, if_neg hnames.1, keep, hvalue, ih hnames.2]
    rfl

theorem recovers_of_details {name : String} (kind : Kind) {details : List (String × Json)}
    {operation : Operation} (hkind : Kind.cases.lookup name = some kind)
    (hnames : ∀ member ∈ details, member.1 ≠ "operation")
    (h : readDetails (Json.object details).draft kind = .ok operation) :
    Recovers read (.object (("operation", .string name) :: details)) operation := by
  intro d hd
  obtain ⟨entries, start, stop, rfl, hentries⟩ := hd.eq_object
  cases hentries with
  | @cons entry _ entries _ hentry hrest =>
    obtain ⟨first, d⟩ := entry
    obtain ⟨span, rfl⟩ := hentry.2.eq_string
    have hread : readMembers ((first, .string name span) :: entries) none =
        .ok (some kind, details) := by
      rw [readMembers, hentry.1]
      simp only [Json.Read.ofExcept, bind, Except.bind, if_pos, Kind.read, Draft.lookUp, hkind]
      exact readMembers_details hrest hnames (some kind)
    simp only [read, hread, bind, Except.bind]
    exact h

theorem keeps (operation : Operation) : Keeps 1 read operation.toJson operation := by
  cases operation with
  | createTable mode =>
    have hmode : createShape.Enters "mode" CreateMode.read fun mode _ => createTable mode :=
      ⟨_, rfl, rfl⟩
    have hdetails := (hmode.writes (CreateMode.keeps 0 mode) createShape.start).keeps (by decide)
      (List.IsPrefix.subset ⟨_, rfl⟩) fun rest _ => refuseSurplus createShape.fields.length rest
    refine ⟨recovers_of_details .createTable rfl (by simp) ?_, .object ?_⟩
    · exact hdetails.recovers _ (Json.spells_draft _)
    · simp only [List.forall_mem_cons]
      exact ⟨.string 0 _, .string 0 _, nofun⟩
  | alterTable =>
    exact ⟨recovers_of_details .alterTable rfl nofun rfl,
      .object (List.forall_mem_singleton.mpr (.string 0 _))⟩
  | addIndex name columns unique =>
    have hname : indexShape.Enters "name" Draft.text fun name i => { i with name } := ⟨_, rfl, rfl⟩
    have hcolumns : indexShape.Enters "columns" Draft.text fun columns i => { i with columns } :=
      ⟨_, rfl, rfl⟩
    have hunique : indexShape.Enters "unique" Draft.boolean fun unique i => { i with unique } :=
      ⟨_, rfl, rfl⟩
    have hdetails := ((hname.writes (.text 0 name) indexShape.start).append
      ((hcolumns.writes (.text 0 columns) _).append (hunique.writes (.boolean 0 unique) _))).keeps
      (by decide) (List.IsPrefix.subset ⟨_, rfl⟩)
      fun rest _ => refuseSurplus indexShape.fields.length rest
    refine ⟨recovers_of_details .addIndex rfl ?_ ?_, .object ?_⟩
    · simp
    · have hread := hdetails.recovers _ (Json.spells_draft _)
      simp only [List.singleton_append] at hread
      simp only [readDetails, hread, bind, Except.bind]
      rfl
    · simp only [List.forall_mem_cons]
      exact ⟨.string 0 _, .string 0 _, .string 0 _, .bool 0 _, nofun⟩

end Operation

/-- Every table and every schema operation comes back from the text of its JSON form. -/
theorem read_render_descriptions :
    (∀ t : Table, (Json.Document.ofString t.toJson.render).read Table.read = .ok t) ∧
      ∀ operation : Operation,
        (Json.Document.ofString operation.toJson.render).read Operation.read = .ok operation :=
  ⟨fun t => t.keeps.read_ofString (by decide),
    fun operation => operation.keeps.read_ofString (by decide)⟩

end Schema

end BoundSql
