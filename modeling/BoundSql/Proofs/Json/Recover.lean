import BoundSql.Proofs.Agreement
import BoundSql.Query.Document

/-! # Readers that recover a value

A reader recovers a value from its JSON form if it gives the value on every draft that spells the
form, wherever the draft stands. The readers of lists, of objects and of records recover what their
parts recover, members of one name included.
-/

namespace BoundSql.Json

/-- A draft that is read to its end as a JSON value. -/
def Spells (d : Draft) (j : Json) : Prop :=
  d.whole = .ok j

def SpellsMember (entry : Name × Draft) (member : String × Json) : Prop :=
  entry.1.text = .ok member.1 ∧ Spells entry.2 member.2

theorem Ending.check_eq_ok {ending : Ending} {u : Unit} (h : ending.check = .ok u) :
    ∃ stop, ending = .closed stop := by
  cases ending with
  | closed stop => exact ⟨stop, rfl⟩
  | broken b stray => cases h

theorem wholeItems_eq_ok {items : List Draft} {js : List Json}
    (h : Draft.wholeItems items = .ok js) : List.Forall₂ Spells items js := by
  induction items generalizing js with
  | nil =>
    obtain rfl := Except.ok.inj h
    exact .nil
  | cons d items ih =>
    rw [Draft.wholeItems, bind_eq_ok] at h
    obtain ⟨j, hd, h⟩ := h
    obtain ⟨js', hs, h⟩ := bind_eq_ok.mp h
    obtain rfl := Except.ok.inj h
    exact .cons hd (ih hs)

theorem wholeMembers_eq_ok {entries : List (Name × Draft)} {members : List (String × Json)}
    (h : Draft.wholeMembers entries = .ok members) :
    List.Forall₂ SpellsMember entries members := by
  induction entries generalizing members with
  | nil =>
    obtain rfl := Except.ok.inj h
    exact .nil
  | cons entry entries ih =>
    rw [Draft.wholeMembers, bind_eq_ok] at h
    obtain ⟨text, hn, h⟩ := h
    obtain ⟨j, hd, h⟩ := bind_eq_ok.mp h
    obtain ⟨members', hs, h⟩ := bind_eq_ok.mp h
    obtain rfl := Except.ok.inj h
    exact .cons ⟨hn, hd⟩ (ih hs)

namespace Spells

theorem array {items : List Draft} {js : List Json} (h : List.Forall₂ Spells items js)
    (start stop : Nat) : Spells (.array items start (.closed stop)) (.array js) := by
  have hitems : Draft.wholeItems items = .ok js := by
    induction h with
    | nil => rfl
    | cons hd _ ih => exact bind_eq_ok.mpr ⟨_, hd, bind_eq_ok.mpr ⟨_, ih, rfl⟩⟩
  exact bind_eq_ok.mpr ⟨js, hitems, rfl⟩

theorem object {entries : List (Name × Draft)} {members : List (String × Json)}
    (h : List.Forall₂ SpellsMember entries members) (start stop : Nat) :
    Spells (.object entries start (.closed stop)) (.object members) := by
  have hmembers : Draft.wholeMembers entries = .ok members := by
    induction h with
    | nil => rfl
    | cons hentry _ ih =>
      exact bind_eq_ok.mpr ⟨_, hentry.1, bind_eq_ok.mpr ⟨_, hentry.2, bind_eq_ok.mpr ⟨_, ih, rfl⟩⟩⟩
  exact bind_eq_ok.mpr ⟨members, hmembers, rfl⟩

variable {d : Draft}

theorem eq_null (h : Spells d .null) : ∃ span, d = .null span := by
  cases d <;> simp_all [Spells, Draft.whole, bind_eq_ok, map_eq_ok]

theorem eq_bool {b : Bool} (h : Spells d (.bool b)) : ∃ span, d = .bool b span := by
  cases d <;> simp_all [Spells, Draft.whole, bind_eq_ok, map_eq_ok]

theorem eq_number {n : Number} (h : Spells d (.number n)) : ∃ span, d = .number n span := by
  cases d <;> simp_all [Spells, Draft.whole, bind_eq_ok, map_eq_ok]

theorem eq_string {s : String} (h : Spells d (.string s)) : ∃ span, d = .string s span := by
  cases d <;> simp_all [Spells, Draft.whole, bind_eq_ok, map_eq_ok]

theorem eq_array {js : List Json} (h : Spells d (.array js)) :
    ∃ items start stop, d = .array items start (.closed stop) ∧
      List.Forall₂ Spells items js := by
  cases d with
  | array items start ending =>
    obtain ⟨js', hs, h⟩ := bind_eq_ok.mp h
    obtain ⟨_, he, h⟩ := bind_eq_ok.mp h
    obtain rfl := Json.array.inj (Except.ok.inj h)
    obtain ⟨stop, rfl⟩ := Ending.check_eq_ok he
    exact ⟨items, start, stop, rfl, wholeItems_eq_ok hs⟩
  | _ => simp [Spells, Draft.whole, bind_eq_ok, map_eq_ok] at h

theorem eq_object {members : List (String × Json)} (h : Spells d (.object members)) :
    ∃ entries start stop, d = .object entries start (.closed stop) ∧
      List.Forall₂ SpellsMember entries members := by
  cases d with
  | object entries start ending =>
    obtain ⟨members', hs, h⟩ := bind_eq_ok.mp h
    obtain ⟨_, he, h⟩ := bind_eq_ok.mp h
    obtain rfl := Json.object.inj (Except.ok.inj h)
    obtain ⟨stop, rfl⟩ := Ending.check_eq_ok he
    exact ⟨entries, start, stop, rfl, wholeMembers_eq_ok hs⟩
  | _ => simp [Spells, Draft.whole, bind_eq_ok, map_eq_ok] at h

end Spells

/-- The reader gives `a` on every draft that spells `j`. -/
def Recovers {α : Type} (read : Draft → Read α) (j : Json) (a : α) : Prop :=
  ∀ d, Spells d j → read d = .ok a

namespace Recovers

variable {α β : Type} {read : Draft → Read α} {j : Json} {a : α}

theorem text (s : String) : Recovers Draft.text (.string s) s := by
  intro d h
  obtain ⟨span, rfl⟩ := h.eq_string
  rfl

theorem unsigned {bits n : Nat} (hn : n < 2 ^ bits) :
    Recovers (Draft.unsigned bits) (.ofNat n) n := by
  intro d h
  obtain ⟨span, rfl⟩ := h.eq_number
  have hfits : 0 ≤ (n : Int) ∧ (n : Int) < 2 ^ bits := ⟨by omega, by exact_mod_cast hn⟩
  simp only [Draft.unsigned, if_pos hfits, Int.toNat_natCast]

theorem optional (h : Recovers read j a) (hj : j ≠ .null) :
    Recovers (Draft.optional read) j (some a) := by
  intro d hd
  have hread := h d hd
  cases d with
  | null => exact absurd (Except.ok.inj hd).symm hj
  | damaged => cases hd
  | _ => simp only [Draft.optional, hread]; rfl

theorem alternative {type : String} {pick : Json → Option α} (h : pick j = some a) :
    Recovers (Draft.alternative type pick) j a := by
  intro d hd
  rw [Draft.alternative, show d.whole = .ok j from hd]
  simp only [Read.ofExcept, bind, Except.bind, h]
  rfl

theorem namedCase {cases : List (String × α)} {name : String} (h : cases.lookup name = some a) :
    Recovers (Draft.namedCase cases) (.string name) a := by
  intro d hd
  obtain ⟨span, rfl⟩ := hd.eq_string
  simp only [Draft.namedCase, Draft.lookUp, h]

theorem list {write : α → Json} {as : List α} (h : ∀ a ∈ as, Recovers read (write a) a) :
    Recovers (Draft.list read) (.array (as.map write)) as := by
  intro d hd
  obtain ⟨items, start, stop, rfl, hitems⟩ := hd.eq_array
  have hread : items.mapM (fun d => (read d).within (.arrayEnd d.stop)) = .ok as := by
    refine mapM_eq_ok.mpr (((List.forall₂_and_left _ _).mpr
      ⟨h, (List.forall₂_map_right_iff.mp hitems).flip⟩).imp fun a d hda => ?_)
    rw [hda.1 d hda.2]
    rfl
  simp only [Draft.list, hread]
  rfl

theorem members {expected : String} {name : β → String} {write : β → Json} {value : β → α}
    {bs : List β} (h : ∀ b ∈ bs, Recovers read (write b) (value b)) :
    Recovers (Draft.members expected read) (.object (bs.map fun b => (name b, write b)))
      (bs.map fun b => (name b, value b)) := by
  intro d hd
  obtain ⟨entries, start, stop, rfl, hentries⟩ := hd.eq_object
  rw [Draft.members, mapM_eq_ok.mpr (List.forall₂_map_left_iff.mpr (((List.forall₂_and_left _ _).mpr
    ⟨h, (List.forall₂_map_right_iff.mp hentries).flip⟩).imp fun b entry hb => ?_))]
  · rfl
  · obtain ⟨hvalue, hname, hd⟩ := hb
    simp only [hname, hvalue _ hd]
    rfl

theorem singleMember {expected name : String} (h : Recovers read j a) :
    Recovers (Draft.singleMember expected read) (.object [(name, j)]) (name, a) := by
  intro d hd
  obtain ⟨entries, start, stop, rfl, hentries⟩ := hd.eq_object
  cases hentries with
  | cons hentry hrest =>
    cases hrest
    simp only [Draft.singleMember, hentry.1, h _ hentry.2]
    rfl

end Recovers

namespace Shape

variable {α β : Type} (shape : Shape α)

def field? (name : String) : Option (Field α) :=
  shape.fields.find? (·.name == name)

/-- Enters the members of an object into a record, without regard to names that repeat. -/
def fill : List (Name × Draft) → α → Read α
  | [], a => .ok a
  | (name, d) :: rest, a => do
    let text ← Read.ofExcept name.text
    match shape.field? text with
    | none => Read.refuse (.objectEnd name.stop) (.missingField text)
    | some field => fill rest (← (field.read d a).within (.objectEnd d.stop))

/-- Entering any members that spell the given ones leads from a record to another. -/
def Fills (members : List (String × Json)) (a b : α) : Prop :=
  ∀ entries, List.Forall₂ SpellsMember entries members → shape.fill entries a = .ok b

variable {shape} {members more : List (String × Json)} {a b c : α}

theorem fill_append (entries rest : List (Name × Draft)) (a : α) :
    shape.fill (entries ++ rest) a = shape.fill entries a >>= shape.fill rest := by
  induction entries generalizing a with
  | nil => rfl
  | cons entry entries ih =>
    obtain ⟨name, d⟩ := entry
    rw [List.cons_append, fill, fill, bind_assoc]
    congr 1
    funext text
    cases shape.field? text with
    | none => rfl
    | some field => simp only [ih, bind_assoc]

theorem Fills.append (h : shape.Fills members a b) (k : shape.Fills more b c) :
    shape.Fills (members ++ more) a c := by
  intro entries hentries
  rw [← List.take_append_drop members.length entries, fill_append,
    h _ (List.forall₂_take_append _ _ _ hentries)]
  exact k _ (List.forall₂_drop_append _ _ _ hentries)

theorem Fills.nil (a : α) : shape.Fills [] a a := by
  intro entries hentries
  cases hentries
  rfl

section Member

variable {name : String} {read : Draft → Read β} {set : β → α → α}

def Enters (shape : Shape α) (name : String) (read : Draft → Read β) (set : β → α → α) : Prop :=
  ∃ field, shape.field? name = some field ∧ field.read = fun d a => (set · a) <$> read d

theorem Enters.member (hfield : shape.Enters name read set) {j : Json} {v : β}
    (h : Recovers read j v) (a : α) : shape.Fills [(name, j)] a (set v a) := by
  obtain ⟨field, hfind, hread⟩ := hfield
  intro entries hentries
  cases hentries with
  | cons hentry hrest =>
    cases hrest
    simp only [fill, hentry.1, Read.ofExcept, bind, Except.bind, hfind, hread, h _ hentry.2]
    rfl

end Member

theorem readMembers_of_fill {entries : List (Name × Draft)} {seen : List String}
    (hentries : List.Forall₂ SpellsMember entries members)
    (hnodup : (members.map Prod.fst).Nodup) (hseen : ∀ member ∈ members, member.1 ∉ seen)
    (hfill : shape.fill entries a = .ok b) :
    shape.readMembers seen entries a = .ok ((members.map Prod.fst).reverse ++ seen, b) := by
  induction hentries generalizing seen a with
  | nil =>
    obtain rfl := Except.ok.inj hfill
    rfl
  | @cons entry member entries members hentry _ ih =>
    obtain ⟨name, d⟩ := entry
    rw [List.forall_mem_cons] at hseen
    rw [List.map_cons, List.nodup_cons] at hnodup
    rw [fill, hentry.1] at hfill
    obtain ⟨_, htext, hfill⟩ := bind_eq_ok.mp hfill
    obtain rfl := Except.ok.inj htext
    cases hfield : shape.field? member.1 with
    | none => simp [hfield, Read.refuse] at hfill
    | some field =>
      simp only [hfield] at hfill
      obtain ⟨a', hread, hfill⟩ := bind_eq_ok.mp hfill
      have hrest : ∀ other ∈ members, other.1 ∉ member.1 :: seen := by
        intro other hother hmem
        rcases List.mem_cons.mp hmem with heq | hmem
        · exact hnodup.1 (List.mem_map.mpr ⟨other, hother, heq⟩)
        · exact hseen.2 other hother hmem
      have hcontains : seen.contains member.1 = false := by simpa using hseen.1
      rw [field?] at hfield
      rw [readMembers, hentry.1]
      simp only [Read.ofExcept, bind, Except.bind, hfield, hcontains, hread]
      simpa using ih hnodup.2 hrest hfill

/-- A record is recovered from an object whose members are some of its fields, in order, with those
that may not miss among them. -/
theorem Fills.recovers (h : shape.Fills members shape.start a)
    (hfields : (shape.fields.map Field.name).Nodup)
    (hmembers : (members.map Prod.fst).Sublist (shape.fields.map Field.name))
    (hrequired : ∀ field ∈ shape.fields, field.mayMiss = false →
      field.name ∈ members.map Prod.fst) (finish : List Draft → Ending → Read Unit) :
    Recovers (shape.readWith finish) (.object members) a := by
  intro d hd
  obtain ⟨entries, start, stop, rfl, hentries⟩ := hd.eq_object
  have hread : shape.readMembers [] entries shape.start =
      .ok ((members.map Prod.fst).reverse ++ [], a) :=
    readMembers_of_fill hentries (hfields.sublist hmembers) (by simp) (h entries hentries)
  have hcheck : shape.fields.find? (fun field => !field.mayMiss &&
      !((members.map Prod.fst).reverse ++ []).contains field.name) = none := by
    rw [List.find?_eq_none]
    intro field hfield hmissing
    rw [Bool.and_eq_true, Bool.not_eq_true', Bool.not_eq_true'] at hmissing
    have hmem := hrequired field hfield hmissing.1
    simp only [List.append_nil, List.contains_eq_mem, List.mem_reverse, hmem, decide_true,
      Bool.true_eq_false] at hmissing
    exact hmissing.2
  simp only [readWith, hread, requireFields, bind, Except.bind, hcheck]
  rfl

end Shape

end BoundSql.Json
