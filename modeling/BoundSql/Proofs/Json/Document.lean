import BoundSql.Proofs.Json.Recover
import BoundSql.Proofs.Json.Token

/-! # Documents read back

The text of a value is parsed to a draft that spells the value, so a reader that recovers something
from the value recovers it from the text. The numbers have to be integers of 64 bits, and the
nesting has to stay within the limit of a parser.
-/

namespace BoundSql.Json

/-- A value whose numbers are integers of 64 bits, with at most `n` containers inside one
another. -/
inductive Plain : (n : Nat) → Json → Prop
  | null (n : Nat) : Plain n .null
  | bool (n : Nat) (b : Bool) : Plain n (.bool b)
  | number (n : Nat) {x : Number} (h : x.Fits) : Plain n (.number x)
  | string (n : Nat) (s : String) : Plain n (.string s)
  | array {n : Nat} {items : List Json} (h : ∀ j ∈ items, Plain n j) : Plain (n + 1) (.array items)
  | object {n : Nat} {members : List (String × Json)} (h : ∀ member ∈ members, Plain n member.2) :
    Plain (n + 1) (.object members)

variable {n : Nat} {j : Json}

def Legible (ts : List Token) : Prop :=
  (∀ t ∈ ts, t.Written) ∧ ts.IsChain Token.Follows

theorem Legible.append_cons {ts us : List Token} {t : Token}
    (h : Legible ts) (ht : t = .comma ∨ t = .closeArray ∨ t = .closeObject)
    (k : Legible (t :: us)) : Legible (ts ++ t :: us) := by
  refine ⟨?_, List.isChain_append.mpr ⟨h.2, k.2, ?_⟩⟩
  · intro u hu
    rcases List.mem_append.mp hu with hu | hu
    · exact h.1 u hu
    · exact k.1 u hu
  · intro u _ v hv _
    obtain rfl := Option.some.inj hv
    exact ht

theorem Legible.cons (t : Token) {ts : List Token} (ht : t.Written) (hn : ¬ t.isNumber)
    (h : Legible ts) : Legible (t :: ts) := by
  refine ⟨List.forall_mem_cons.mpr ⟨ht, h.1⟩, ?_⟩
  cases ts with
  | nil => exact .singleton t
  | cons u ts => exact List.isChain_cons_cons.mpr ⟨fun h' => absurd h' hn, h.2⟩

theorem legible_singleton {t : Token} (ht : t.Written) : Legible [t] :=
  ⟨List.forall_mem_singleton.mpr ht, .singleton t⟩

theorem legible_itemTokens {items : List Json} (h : ∀ j ∈ items, Legible j.tokens) :
    Legible (itemTokens items) := by
  induction items with
  | nil => exact legible_singleton trivial
  | cons item rest ih =>
    rw [List.forall_mem_cons] at h
    cases rest with
    | nil => exact h.1.append_cons (by simp) (legible_singleton trivial)
    | cons next rest => exact h.1.append_cons (by simp) ((ih h.2).cons _ trivial nofun)

theorem legible_memberTokens {members : List (String × Json)}
    (h : ∀ member ∈ members, Legible member.2.tokens) : Legible (memberTokens members) := by
  induction members with
  | nil => exact legible_singleton trivial
  | cons member rest ih =>
    rw [List.forall_mem_cons] at h
    have named {ts : List Token} (hts : Legible ts) :
        Legible (.string (.ok member.1) :: .colon :: ts) :=
      (hts.cons .colon trivial nofun).cons _ trivial nofun
    cases rest with
    | nil => exact named (h.1.append_cons (by simp) (legible_singleton trivial))
    | cons next rest => exact named (h.1.append_cons (by simp) ((ih h.2).cons _ trivial nofun))

theorem Plain.legible (h : Plain n j) : Legible j.tokens := by
  induction h with
  | null => exact legible_singleton trivial
  | bool => exact legible_singleton trivial
  | number n h => exact legible_singleton h
  | string => exact legible_singleton trivial
  | array _ ih => exact (legible_itemTokens ih).cons _ trivial nofun
  | object _ ih => exact (legible_memberTokens ih).cons _ trivial nofun

theorem Plain.tokenize_render (h : Plain n j) :
    (tokenize 0 j.render.toList).map Lexeme.token = j.tokens := by
  rw [render, String.toList_ofList]
  exact tokenize_flatMap h.legible.1 h.legible.2 0

namespace Parser

def startsValue : Awaiting → Bool
  | .value | .itemOrEnd | .item => true
  | _ => false

theorem step_of_startsValue {awaiting : Awaiting} (h : startsValue awaiting) {l : Lexeme}
    (hl : l.token ≠ .closeArray) (stack : List Frame) :
    step stack awaiting l = value stack l := by
  obtain ⟨t, start, stop⟩ := l
  cases awaiting with
  | value => cases t <;> rfl
  | itemOrEnd | item =>
    cases t with
    | closeArray => exact absurd rfl hl
    | _ => rfl
  | _ => cases h

/-- Some lexemes are parsed as a value that spells `j`, wherever a value may stand. -/
def ParsesValue (ls : List Lexeme) (j : Json) : Prop :=
  ∃ d, Spells d j ∧ ∀ size stack awaiting rest, startsValue awaiting →
    run size (.inside stack awaiting) (ls ++ rest) = run size (deliver d stack) rest

theorem run_step {size : Nat} {stack : List Frame} {awaiting : Awaiting} {l : Lexeme}
    {next : Parser} (h : step stack awaiting l = .ok next) (rest : List Lexeme) :
    run size (.inside stack awaiting) (l :: rest) = run size next rest := by
  rw [run, h]

theorem parsesValue_single {ls : List Lexeme} {t : Token} {d : Lexeme → Draft}
    (hls : ls.map Lexeme.token = [t]) (ht : t ≠ .closeArray)
    (hvalue : ∀ l stack, l.token = t → value stack l = .ok (deliver (d l) stack))
    (hd : ∀ l, Spells (d l) j) : ParsesValue ls j := by
  obtain ⟨l, rfl, hl⟩ := List.map_eq_singleton_iff.mp hls
  refine ⟨d l, hd l, fun size stack awaiting rest hawaiting => run_step ?_ rest⟩
  rw [step_of_startsValue hawaiting (hl ▸ ht), hvalue l stack hl]

theorem step_closeArray {l : Lexeme} (hl : l.token = .closeArray) {awaiting : Awaiting}
    (h : awaiting = .itemOrEnd ∨ awaiting = .commaOrEnd) (done : List Draft) (start : Nat)
    (outer : List Frame) : step (.array done start :: outer) awaiting l =
      .ok (deliver (.array done.reverse start (.closed l.stop)) outer) := by
  obtain ⟨t, lstart, stop⟩ := l
  subst hl
  rcases h with rfl | rfl <;> rfl

theorem step_closeObject {l : Lexeme} (hl : l.token = .closeObject) {awaiting : Awaiting}
    (h : awaiting = .nameOrEnd ∨ awaiting = .commaOrEnd) (done : List (Name × Draft)) (start : Nat)
    (outer : List Frame) : step (.object done start :: outer) awaiting l =
      .ok (deliver (.object done.reverse start (.closed l.stop)) outer) := by
  obtain ⟨t, lstart, stop⟩ := l
  subst hl
  rcases h with rfl | rfl <;> rfl

def behindComma : Frame → Awaiting
  | .array _ _ => .item
  | .object _ _ => .name

theorem step_comma {l : Lexeme} (hl : l.token = .comma) (frame : Frame) (outer : List Frame) :
    step (frame :: outer) .commaOrEnd l = .ok (.inside (frame :: outer) (behindComma frame)) := by
  obtain ⟨t, lstart, stop⟩ := l
  subst hl
  cases frame <;> rfl

theorem parsesItems {items : List Json}
    (h : ∀ j ∈ items, ∀ ls : List Lexeme, ls.map Lexeme.token = j.tokens → ParsesValue ls j)
    {ls : List Lexeme} (hls : ls.map Lexeme.token = itemTokens items) :
    ∃ ds stop, List.Forall₂ Spells ds items ∧ ∀ size done start outer awaiting rest,
      startsValue awaiting → (items = [] → awaiting = .itemOrEnd) →
      run size (.inside (.array done start :: outer) awaiting) (ls ++ rest) =
        run size (deliver (.array (done.reverse ++ ds) start (.closed stop)) outer) rest := by
  induction items generalizing ls with
  | nil =>
    obtain ⟨l, rfl, hl⟩ := List.map_eq_singleton_iff.mp hls
    refine ⟨[], l.stop, .nil, fun size done start outer awaiting rest _ hempty => ?_⟩
    rw [List.append_nil]
    exact run_step (step_closeArray hl (.inl (hempty rfl)) done start outer) rest
  | cons item more ih =>
    rw [List.forall_mem_cons] at h
    cases more with
    | nil =>
      obtain ⟨ls₁, ls₂, rfl, h₁, h₂⟩ := List.map_eq_append_iff.mp hls
      obtain ⟨l, rfl, hl⟩ := List.map_eq_singleton_iff.mp h₂
      obtain ⟨d, hd, hrun⟩ := h.1 ls₁ h₁
      refine ⟨[d], l.stop, .cons hd .nil, fun size done start outer awaiting rest hawaiting _ => ?_⟩
      rw [List.append_assoc, hrun _ _ _ _ hawaiting]
      have hclose := step_closeArray hl (.inr rfl) (d :: done) start outer
      rw [List.reverse_cons] at hclose
      exact run_step hclose rest
    | cons next more =>
      obtain ⟨ls₁, ls₂, rfl, h₁, h₂⟩ := List.map_eq_append_iff.mp hls
      obtain ⟨l, ls₃, rfl, hl, h₃⟩ := List.map_eq_cons_iff.mp h₂
      obtain ⟨d, hd, hrun⟩ := h.1 ls₁ h₁
      obtain ⟨ds, stop, hds, hrest⟩ := ih h.2 h₃
      refine ⟨d :: ds, stop, .cons hd hds,
        fun size done start outer awaiting rest hawaiting _ => ?_⟩
      rw [List.append_assoc, hrun _ _ _ _ hawaiting, List.cons_append]
      refine (run_step (step_comma hl (.array (d :: done) start) outer) _).trans ?_
      rw [behindComma, hrest size (d :: done) start outer .item rest rfl nofun,
        List.reverse_cons, List.append_assoc, List.singleton_append]

theorem parsesMember {member : String × Json} {after : List Token}
    (h : ∀ ls : List Lexeme, ls.map Lexeme.token = member.2.tokens → ParsesValue ls member.2)
    {ls : List Lexeme} (hls : ls.map Lexeme.token =
      .string (.ok member.1) :: .colon :: (member.2.tokens ++ after)) :
    ∃ entry more, SpellsMember entry member ∧ more.map Lexeme.token = after ∧
      ∀ size done start outer awaiting rest, awaiting = .nameOrEnd ∨ awaiting = .name →
      run size (.inside (.object done start :: outer) awaiting) (ls ++ rest) =
        run size (.inside (.object (entry :: done) start :: outer) .commaOrEnd) (more ++ rest) := by
  obtain ⟨⟨t, start, stop⟩, ls₁, rfl, rfl, h₁⟩ := List.map_eq_cons_iff.mp hls
  obtain ⟨⟨t, cstart, cstop⟩, ls₂, rfl, rfl, h₂⟩ := List.map_eq_cons_iff.mp h₁
  obtain ⟨ls₃, more, rfl, h₃, hmore⟩ := List.map_eq_append_iff.mp h₂
  obtain ⟨d, hd, hrun⟩ := h ls₃ h₃
  refine ⟨(⟨.ok member.1, stop⟩, d), more, ⟨rfl, hd⟩, hmore,
    fun size done ostart outer awaiting rest hawaiting => ?_⟩
  let awaited : Name × Draft := (⟨.ok member.1, stop⟩, .absent stop ⟨.missingColon, .past stop⟩)
  have hopen (ls : List Lexeme) :
      run size (.inside (.object done ostart :: outer) awaiting)
          (⟨.string (.ok member.1), start, stop⟩ :: ⟨.colon, cstart, cstop⟩ :: ls) =
        run size (.inside (.object (awaited :: done) ostart :: outer) .value) ls := by
    rcases hawaiting with rfl | rfl <;> rfl
  rw [List.cons_append, List.cons_append, hopen, List.append_assoc, hrun _ _ _ _ rfl]
  rfl

theorem parsesMembers {members : List (String × Json)}
    (h : ∀ member ∈ members, ∀ ls : List Lexeme, ls.map Lexeme.token = member.2.tokens →
      ParsesValue ls member.2)
    {ls : List Lexeme} (hls : ls.map Lexeme.token = memberTokens members) :
    ∃ entries stop, List.Forall₂ SpellsMember entries members ∧
      ∀ size done start outer awaiting rest, awaiting = .nameOrEnd ∨ awaiting = .name →
      (members = [] → awaiting = .nameOrEnd) →
      run size (.inside (.object done start :: outer) awaiting) (ls ++ rest) =
        run size (deliver (.object (done.reverse ++ entries) start (.closed stop)) outer) rest := by
  induction members generalizing ls with
  | nil =>
    obtain ⟨l, rfl, hl⟩ := List.map_eq_singleton_iff.mp hls
    refine ⟨[], l.stop, .nil, fun size done start outer awaiting rest _ hempty => ?_⟩
    rw [List.append_nil]
    exact run_step (step_closeObject hl (.inl (hempty rfl)) done start outer) rest
  | cons member more ih =>
    rw [List.forall_mem_cons] at h
    cases more with
    | nil =>
      obtain ⟨entry, ls₁, hentry, h₁, hrun⟩ := parsesMember h.1 hls
      obtain ⟨l, rfl, hl⟩ := List.map_eq_singleton_iff.mp h₁
      refine ⟨[entry], l.stop, .cons hentry .nil,
        fun size done start outer awaiting rest hawaiting _ => ?_⟩
      rw [hrun _ _ _ _ _ _ hawaiting]
      have hclose := step_closeObject hl (.inr rfl) (entry :: done) start outer
      rw [List.reverse_cons] at hclose
      exact run_step hclose rest
    | cons next more =>
      obtain ⟨entry, ls₁, hentry, h₁, hrun⟩ := parsesMember h.1 hls
      obtain ⟨l, ls₂, rfl, hl, h₂⟩ := List.map_eq_cons_iff.mp h₁
      obtain ⟨entries, stop, hentries, hrest⟩ := ih h.2 h₂
      refine ⟨entry :: entries, stop, .cons hentry hentries,
        fun size done start outer awaiting rest hawaiting _ => ?_⟩
      rw [hrun _ _ _ _ _ _ hawaiting, List.cons_append]
      refine (run_step (step_comma hl (.object (entry :: done) start) outer) _).trans ?_
      rw [behindComma, hrest size (entry :: done) start outer .name rest (.inr rfl) nofun,
        List.reverse_cons, List.append_assoc, List.singleton_append]

theorem parsesValue (h : Plain n j) {ls : List Lexeme} (hls : ls.map Lexeme.token = j.tokens) :
    ParsesValue ls j := by
  induction h generalizing ls with
  | null n =>
    refine parsesValue_single (d := fun l => .null ⟨l.start, l.stop⟩) hls nofun ?_ fun _ => rfl
    rintro ⟨t, start, stop⟩ stack rfl
    rfl
  | bool n b =>
    refine parsesValue_single (d := fun l => .bool b ⟨l.start, l.stop⟩) hls nofun ?_ fun _ => rfl
    rintro ⟨t, start, stop⟩ stack rfl
    rfl
  | @number n x h =>
    refine parsesValue_single (d := fun l => .number x ⟨l.start, l.stop⟩) hls nofun ?_ fun _ => rfl
    rintro ⟨t, start, stop⟩ stack rfl
    rfl
  | string n s =>
    refine parsesValue_single (d := fun l => .string s ⟨l.start, l.stop⟩) hls nofun ?_ fun _ => rfl
    rintro ⟨t, start, stop⟩ stack rfl
    rfl
  | array _ ih =>
    obtain ⟨l, ls, rfl, hl, hls⟩ := List.map_eq_cons_iff.mp hls
    obtain ⟨ds, stop, hds, hrun⟩ := parsesItems (fun j hj ls hls => ih j hj hls) hls
    refine ⟨.array ds l.start (.closed stop), .array hds _ _,
      fun size stack awaiting rest hawaiting => ?_⟩
    have hopen : step stack awaiting l = .ok (.inside (.array [] l.start :: stack) .itemOrEnd) := by
      rw [step_of_startsValue hawaiting (by rw [hl]; nofun), value, hl]
    rw [List.cons_append, run_step hopen,
      hrun size [] l.start stack .itemOrEnd rest rfl fun _ => rfl]
    rfl
  | object _ ih =>
    obtain ⟨l, ls, rfl, hl, hls⟩ := List.map_eq_cons_iff.mp hls
    obtain ⟨entries, stop, hentries, hrun⟩ :=
      parsesMembers (fun member hmember ls hls => ih member hmember hls) hls
    refine ⟨.object entries l.start (.closed stop), .object hentries _ _,
      fun size stack awaiting rest hawaiting => ?_⟩
    have hopen : step stack awaiting l =
        .ok (.inside (.object [] l.start :: stack) .nameOrEnd) := by
      rw [step_of_startsValue hawaiting (by rw [hl]; nofun), value, hl]
    rw [List.cons_append, run_step hopen,
      hrun size [] l.start stack .nameOrEnd rest (.inl rfl) fun _ => rfl]
    rfl

end Parser

theorem limitItems_spells {n : Nat} {ds : List Draft} {items : List Json}
    (h : ∀ j ∈ items, ∀ d, Spells d j → Spells (d.limit n) j) (hds : List.Forall₂ Spells ds items) :
    List.Forall₂ Spells (Draft.limitItems n ds) items := by
  induction hds with
  | nil => exact .nil
  | cons hd _ ih =>
    rw [List.forall_mem_cons] at h
    exact .cons (h.1 _ hd) (ih h.2)

theorem limitMembers_spells {n : Nat} {entries : List (Name × Draft)}
    {members : List (String × Json)}
    (h : ∀ member ∈ members, ∀ d, Spells d member.2 → Spells (d.limit n) member.2)
    (hentries : List.Forall₂ SpellsMember entries members) :
    List.Forall₂ SpellsMember (Draft.limitMembers n entries) members := by
  induction hentries with
  | nil => exact .nil
  | cons hentry _ ih =>
    rw [List.forall_mem_cons] at h
    exact .cons ⟨hentry.1, h.1 _ hentry.2⟩ (ih h.2)

/-- A draft that is not too deep keeps what it spells. -/
theorem Plain.spells_limit (h : Plain n j) {d : Draft} (hd : Spells d j) :
    Spells (d.limit n) j := by
  induction h generalizing d with
  | null n =>
    obtain ⟨span, rfl⟩ := hd.eq_null
    cases n <;> rfl
  | bool n b =>
    obtain ⟨span, rfl⟩ := hd.eq_bool
    cases n <;> rfl
  | number n h =>
    obtain ⟨span, rfl⟩ := hd.eq_number
    cases n <;> rfl
  | string n s =>
    obtain ⟨span, rfl⟩ := hd.eq_string
    cases n <;> rfl
  | array _ ih =>
    obtain ⟨items, start, stop, rfl, hitems⟩ := hd.eq_array
    exact .array (limitItems_spells (fun j hj d hd => ih j hj hd) hitems) start stop
  | object _ ih =>
    obtain ⟨entries, start, stop, rfl, hentries⟩ := hd.eq_object
    exact .object (limitMembers_spells (fun member hmember d hd => ih member hmember hd) hentries)
      start stop

theorem Plain.mono {m : Nat} (h : Plain n j) (hm : n ≤ m) : Plain m j := by
  induction h generalizing m with
  | null => exact .null m
  | bool n b => exact .bool m b
  | number n h => exact .number m h
  | string n s => exact .string m s
  | @array n items _ ih =>
    obtain ⟨m, rfl⟩ := Nat.exists_eq_add_of_lt hm
    exact .array fun j hj => ih j hj (by omega)
  | @object n members _ ih =>
    obtain ⟨m, rfl⟩ := Nat.exists_eq_add_of_lt hm
    exact .object fun member hmember => ih member hmember (by omega)

theorem Plain.ofStrings (n : Nat) (texts : List String) : Plain (n + 1) (ofStrings texts) := by
  refine .array fun j hj => ?_
  obtain ⟨s, -, rfl⟩ := List.mem_map.mp hj
  exact .string n s

/-- The text of a value is parsed to a draft that spells the value, and nothing follows it. -/
theorem Plain.parse_render (h : Plain n j) :
    ∃ d, Spells d j ∧ Document.parse j.render = ⟨d, none⟩ := by
  obtain ⟨d, hd, hrun⟩ := Parser.parsesValue h h.tokenize_render
  refine ⟨d, hd, ?_⟩
  rw [Document.parse, ← List.append_nil (tokenize 0 j.render.toList), hrun _ _ _ _ rfl]
  rfl

/-- What a reader recovers from a value, it recovers from the text of the value. -/
theorem Document.read_ofString_render {α : Type} {read : Draft → Read α} {a : α}
    (h : Plain maxDepth j) (hread : Recovers read j a) :
    (Document.ofString j.render).read read = .ok a := by
  obtain ⟨d, hd, hparse⟩ := h.parse_render
  simp only [Document.ofString, hparse, Document.read, hread _ (h.spells_limit hd)]
  rfl

end BoundSql.Json
