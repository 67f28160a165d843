import BoundSql.Proofs.Json.Document

/-! # Records and their documents

A value is kept in a document if its JSON form is shallow enough for a parser and a reader recovers
the value from the form. A record is kept if its members are: each one enters its field, stands in
the order of the fields, and is kept itself.
-/

namespace BoundSql.Json

variable {α β : Type}

/-- The form `j` of a value `a` has at most `n` containers inside one another, and the reader
recovers `a` from it. -/
structure Keeps (n : Nat) (read : Draft → Read α) (j : Json) (a : α) : Prop where
  recovers : Recovers read j a
  plain : Plain n j

theorem Keeps.read_ofString {n : Nat} {read : Draft → Read α} {j : Json} {a : α}
    (h : Keeps n read j a) (hn : n ≤ maxDepth) : (Document.ofString j.render).read read = .ok a :=
  Document.read_ofString_render (h.plain.mono hn) h.recovers

namespace Keeps

variable {m n : Nat} {read : Draft → Read α} {j : Json} {a : α}

theorem mono (h : Keeps m read j a) (hm : m ≤ n) : Keeps n read j a :=
  ⟨h.recovers, h.plain.mono hm⟩

theorem text (n : Nat) (s : String) : Keeps n Draft.text (.string s) s :=
  ⟨.text s, .string n s⟩

theorem boolean (n : Nat) (b : Bool) : Keeps n Draft.boolean (.bool b) b := by
  refine ⟨fun d hd => ?_, .bool n b⟩
  obtain ⟨span, rfl⟩ := hd.eq_bool
  rfl

theorem namedCase {cases : List (String × α)} {name : String} (h : cases.lookup name = some a) :
    Keeps n (Draft.namedCase cases) (.string name) a :=
  ⟨.namedCase h, .string n name⟩

theorem optional (h : Keeps n read j a) (hj : j ≠ .null) :
    Keeps n (Draft.optional read) j (some a) :=
  ⟨h.recovers.optional hj, h.plain⟩

theorem list {write : α → Json} {as : List α} (h : ∀ a ∈ as, Keeps n read (write a) a) :
    Keeps (n + 1) (Draft.list read) (.array (as.map write)) as := by
  refine ⟨.list fun a ha => (h a ha).recovers, .array fun j hj => ?_⟩
  obtain ⟨a, ha, rfl⟩ := List.mem_map.mp hj
  exact (h a ha).plain

theorem members {expected : String} {name : β → String} {write : β → Json} {value : β → α}
    {bs : List β} (h : ∀ b ∈ bs, Keeps n read (write b) (value b)) :
    Keeps (n + 1) (Draft.members expected read) (.object (bs.map fun b => (name b, write b)))
      (bs.map fun b => (name b, value b)) := by
  refine ⟨.members fun b hb => (h b hb).recovers, .object fun member hmember => ?_⟩
  obtain ⟨b, hb, rfl⟩ := List.mem_map.mp hmember
  exact (h b hb).plain

theorem singleMember {expected name : String} (h : Keeps n read j a) :
    Keeps (n + 1) (Draft.singleMember expected read) (.object [(name, j)]) (name, a) :=
  ⟨h.recovers.singleMember, .object (List.forall_mem_singleton.mpr h.plain)⟩

theorem map {f : α → β} {b : β} (h : Keeps n read j a) (hb : f a = b) :
    Keeps n (fun d => read d >>= fun a => pure (f a)) j b := by
  refine ⟨fun d hd => ?_, h.plain⟩
  simp only [h.recovers d hd]
  exact congrArg Except.ok hb

end Keeps

namespace Shape

/-- Members that lead from a record to another and stand for some of the named fields, in order. -/
structure Writes (shape : Shape α) (n : Nat) (names : List String)
    (members : List (String × Json)) (a b : α) : Prop where
  fills : shape.Fills members a b
  sublist : (members.map Prod.fst).Sublist names
  plain : ∀ member ∈ members, Plain n member.2

variable {shape : Shape α} {n : Nat} {names more : List String} {name : String}
  {members others : List (String × Json)} {read : Draft → Read β} {set : β → α → α} {a b c : α}

theorem Writes.nil (a : α) : shape.Writes n [name] [] a a :=
  ⟨.nil a, List.nil_sublist _, nofun⟩

theorem Writes.append (h : shape.Writes n names members a b)
    (k : shape.Writes n more others b c) :
    shape.Writes n (names ++ more) (members ++ others) a c := by
  refine ⟨h.fills.append k.fills, ?_, ?_⟩
  · rw [List.map_append]
    exact h.sublist.append k.sublist
  · exact List.forall_mem_append.mpr ⟨h.plain, k.plain⟩

theorem Enters.writes (hfield : shape.Enters name read set) {j : Json} {v : β}
    (h : Keeps n read j v) (a : α) : shape.Writes n [name] [(name, j)] a (set v a) :=
  ⟨hfield.member h.recovers a, .refl _, List.forall_mem_singleton.mpr h.plain⟩

theorem Enters.writesIf {set : Option β → α → α}
    (hfield : shape.Enters name (Draft.optional read) set) {write : β → Json} (o : Option β)
    (h : ∀ v, Keeps n read (write v) v) (hwrite : ∀ v, write v ≠ .null) (hnone : set none a = a) :
    shape.Writes n [name] (Json.memberIf name write o) a (set o a) := by
  cases o with
  | none =>
    rw [hnone]
    exact .nil a
  | some v => exact hfield.writes ((h v).optional (hwrite v)) a

theorem Enters.writesUnlessEmpty {set : List β → α → α}
    (hfield : shape.Enters name (Draft.list read) set) {write : β → Json} (vs : List β)
    (h : ∀ v ∈ vs, Keeps n read (write v) v) (hnil : set [] a = a) :
    shape.Writes (n + 1) [name] (Json.memberUnlessEmpty name write vs) a (set vs a) := by
  cases vs with
  | nil =>
    rw [hnil]
    exact .nil a
  | cons v vs => exact hfield.writes (.list h) a

/-- A record is kept in an object whose members lead to it, the required ones among them. -/
theorem Writes.keeps
    (h : shape.Writes n (shape.fields.map Field.name) members shape.start a)
    (hfields : (shape.fields.map Field.name).Nodup)
    (hrequired : (shape.fields.filter (! ·.mayMiss)).map Field.name ⊆ members.map Prod.fst)
    (finish : List Draft → Ending → Read Unit) :
    Keeps (n + 1) (shape.readWith finish) (.object members) a := by
  refine ⟨h.fills.recovers hfields h.sublist (fun field hfield hmust => ?_) finish,
    .object h.plain⟩
  refine hrequired (List.mem_map_of_mem (List.mem_filter.mpr ⟨hfield, ?_⟩))
  rw [hmust]
  rfl

end Shape

end BoundSql.Json
