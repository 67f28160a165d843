import BoundSql.Proofs.Condition.Document
import BoundSql.Proofs.Json.Record
import BoundSql.Table.Document

/-! # Documents of tables

A table is kept in its document. An option that is left alone has no member there, one that is taken
away has another form than any that is set, and a literal has another form than any expression: so
each comes back in its own state.
-/

namespace BoundSql

open Json (Draft Keeps Plain Recovers)
open Json.Shape (Enters Writes)

namespace SqlType

theorem ofName?_sql (type : SqlType) : ofName? type.sql = some type := by
  cases type <;> decide +kernel

theorem keeps (n : Nat) (type : SqlType) : Keeps n read (.string type.sql) type := by
  refine ⟨fun d hd => ?_, .string n _⟩
  obtain ⟨span, rfl⟩ := hd.eq_string
  simp only [read, Draft.text, bind, Except.bind, ofName?_sql]
  rfl

end SqlType

namespace Length

theorem word?_ofNat (n : UInt32) : word? (.ofNat n.toNat) = some n := by
  have hn := n.toNat_lt
  have hfits : 0 ≤ (n.toNat : Int) ∧ (n.toNat : Int) < 2 ^ 32 := by omega
  simp only [word?, Json.ofNat, if_pos hfits, Int.toNat_natCast, UInt32.ofNat_toNat]

theorem ofJson?_toJson (l : Length) : ofJson? l.toJson = some l := by
  cases l with
  | size n =>
    have hword := word?_ofNat n
    rw [Json.ofNat] at hword
    simp only [toJson, Json.ofNat, ofJson?, hword, Option.map_some]
  | precision digits scale =>
    have hwords : ([digits, scale].map fun w => Json.ofNat w.toNat).mapM word? =
        some [digits, scale] := mapM_map_eq_some fun w _ => word?_ofNat w
    rw [List.map_cons, List.map_cons, List.map_nil] at hwords
    rw [toJson, ofJson?, hwords]
  | values texts =>
    have htexts : (texts.map Json.string).mapM text? = some texts :=
      mapM_map_eq_some fun _ _ => rfl
    rw [toJson, Json.ofStrings, ofJson?, htexts]
    cases texts with
    | nil => rfl
    | cons s texts => rfl

theorem plain (l : Length) : Plain 1 l.toJson := by
  have hword (n : Nat) (w : UInt32) : Plain n (.ofNat w.toNat) := by
    have hw := w.toNat_lt
    exact .number n ⟨by omega, by omega⟩
  cases l with
  | size n => exact hword 1 n
  | precision digits scale =>
    refine .array ?_
    simp only [List.forall_mem_cons]
    exact ⟨hword 0 digits, hword 0 scale, nofun⟩
  | values texts => exact .ofStrings 0 texts

theorem keeps (l : Length) : Keeps 1 read l.toJson l :=
  ⟨.alternative (ofJson?_toJson l), l.plain⟩

theorem toJson_ne_null (l : Length) : l.toJson ≠ .null := by
  cases l <;> nofun

end Length

namespace Toggle

theorem keeps (n : Nat) (t : Toggle) : Keeps n read t.toJson t := by
  cases t with
  | unset =>
    refine ⟨fun d hd => ?_, .null n⟩
    obtain ⟨span, rfl⟩ := hd.eq_null
    rfl
  | on | off =>
    refine ⟨fun d hd => ?_, .bool n _⟩
    obtain ⟨span, rfl⟩ := hd.eq_bool
    rfl

end Toggle

namespace Setting

variable {α : Type}

theorem keeps_clear (n : Nat) (value? : Json → Option α) :
    Keeps n (read value?) (.bool false) clear := by
  refine ⟨fun d hd => ?_, .bool n false⟩
  obtain ⟨span, rfl⟩ := hd.eq_bool
  rfl

/-- A value is kept whose form is neither null nor a truth value. -/
theorem keeps_set {n : Nat} {value? : Json → Option α} {j : Json} {a : α}
    (h : value? j = some a) (hnull : j ≠ .null) (hbool : ∀ b, j ≠ .bool b) (hj : Plain n j) :
    Keeps n (read value?) j (set a) := by
  refine ⟨fun d hd => ?_, hj⟩
  have hvalue : Draft.alternative "Repr" value? d = .ok a := Recovers.alternative h d hd
  unfold read
  split
  · exact absurd (Except.ok.inj hd).symm hnull
  · exact absurd (Except.ok.inj hd).symm (hbool false)
  · exact absurd (Except.ok.inj hd).symm (hbool true)
  · rw [hvalue]
    rfl

end Setting

namespace DefaultValue

theorem ofJson?_toJson (v : DefaultValue) : ofJson? v.toJson = some v := by
  cases v with
  | literal s => rfl
  | expression s => simp [toJson, ofJson?, expression?, Operand.named]

theorem plain (v : DefaultValue) : Plain 1 v.toJson := by
  cases v with
  | literal s => exact .string 1 s
  | expression s => exact .object (List.forall_mem_singleton.mpr (.string 0 s))

theorem keeps (v : DefaultValue) :
    Keeps 1 (Setting.read ofJson?) v.toJson (.set v) := by
  refine Setting.keeps_set (ofJson?_toJson v) ?_ ?_ v.plain
  · cases v <;> nofun
  · cases v <;> nofun

end DefaultValue

namespace Json.Shape

variable {α β : Type} {shape : Shape α} {name : String} {n : Nat} {a : α}

theorem Enters.writesIfToggled {set : Toggle → α → α} (hfield : shape.Enters name Toggle.read set)
    (t : Toggle) (hunset : set .unset a = a) :
    shape.Writes n [name] (memberIfToggled name t) a (set t a) := by
  cases t with
  | unset =>
    rw [hunset]
    exact .nil a
  | on => exact hfield.writes (Toggle.keeps n .on) a
  | off => exact hfield.writes (Toggle.keeps n .off) a

theorem Enters.writesIfSet {value? : Json → Option β} {set : Setting β → α → α}
    (hfield : shape.Enters name (Setting.read value?) set) {write : β → Json} (s : Setting β)
    (h : ∀ v, Keeps n (Setting.read value?) (write v) (.set v)) (hunset : set .unset a = a) :
    shape.Writes n [name] (memberIfSet name write s) a (set s a) := by
  cases s with
  | unset =>
    rw [hunset]
    exact .nil a
  | set v => exact hfield.writes (h v) a
  | clear => exact hfield.writes (Setting.keeps_clear n value?) a

end Json.Shape

namespace Column

theorem keeps (c : Column) : Keeps 2 read c.toJson c := by
  have hname : shape.Enters "name" Draft.text fun name c => { c with name } := ⟨_, rfl, rfl⟩
  have htype : shape.Enters "type" (Draft.optional SqlType.read) fun type c => { c with type } :=
    ⟨_, rfl, rfl⟩
  have hlength : shape.Enters "length" (Draft.optional Length.read)
    fun length c => { c with length } := ⟨_, rfl, rfl⟩
  have hunsigned : shape.Enters "unsigned" Toggle.read fun unsigned c => { c with unsigned } :=
    ⟨_, rfl, rfl⟩
  have hnotNull : shape.Enters "not_null" Toggle.read fun notNull c => { c with notNull } :=
    ⟨_, rfl, rfl⟩
  have hautoIncrement : shape.Enters "auto_increment" Toggle.read
    fun autoIncrement c => { c with autoIncrement } := ⟨_, rfl, rfl⟩
  have hzerofill : shape.Enters "zerofill" Toggle.read fun zerofill c => { c with zerofill } :=
    ⟨_, rfl, rfl⟩
  have hprimaryKey : shape.Enters "primary_key" Toggle.read
    fun primaryKey c => { c with primaryKey } := ⟨_, rfl, rfl⟩
  have hdefault : shape.Enters "default" (Setting.read DefaultValue.ofJson?)
    fun default c => { c with default } := ⟨_, rfl, rfl⟩
  have honUpdate : shape.Enters "on_update" (Draft.optional Draft.text)
    fun onUpdate c => { c with onUpdate } := ⟨_, rfl, rfl⟩
  have hcomment : shape.Enters "comment" (Setting.read Length.text?)
    fun comment c => { c with comment } := ⟨_, rfl, rfl⟩
  have hrenameTo : shape.Enters "rename_to" (Draft.optional Draft.text)
    fun renameTo c => { c with renameTo } := ⟨_, rfl, rfl⟩
  have htext (s : String) : Keeps 1 (Setting.read Length.text?) (.string s) (.set s) :=
    Setting.keeps_set rfl nofun nofun (.string 1 s)
  have h₁ := (hname.writes (.text 1 c.name) shape.start).append
    (htype.writesIf c.type (SqlType.keeps 1) nofun rfl)
  have h₂ := h₁.append (hlength.writesIf c.length Length.keeps Length.toJson_ne_null rfl)
  have h₃ := h₂.append (hunsigned.writesIfToggled c.unsigned rfl)
  have h₄ := h₃.append (hnotNull.writesIfToggled c.notNull rfl)
  have h₅ := h₄.append (hautoIncrement.writesIfToggled c.autoIncrement rfl)
  have h₆ := h₅.append (hzerofill.writesIfToggled c.zerofill rfl)
  have h₇ := h₆.append (hprimaryKey.writesIfToggled c.primaryKey rfl)
  have h₈ := h₇.append (hdefault.writesIfSet c.default DefaultValue.keeps rfl)
  have h₉ := h₈.append (honUpdate.writesIf c.onUpdate (.text 1) nofun rfl)
  have h₁₀ := h₉.append (hcomment.writesIfSet c.comment htext rfl)
  have h₁₁ := h₁₀.append (hrenameTo.writesIf c.renameTo (.text 1) nofun rfl)
  exact h₁₁.keeps (by decide) (List.IsPrefix.subset ⟨_, rfl⟩) Json.Shape.endOfItems

end Column

namespace ReferentialAction

theorem keeps (n : Nat) (a : ReferentialAction) :
    Keeps n (Draft.namedCase cases) (ForeignKey.actionToJson a) a :=
  .namedCase (by cases a <;> decide)

end ReferentialAction

namespace ForeignKey

theorem keeps (k : ForeignKey) : Keeps 1 shape.read k.toJson k := by
  have hcolumn : shape.Enters "column" Draft.text fun column k => { k with column } :=
    ⟨_, rfl, rfl⟩
  have htable : shape.Enters "references_table" Draft.text
    fun referencesTable k => { k with referencesTable } := ⟨_, rfl, rfl⟩
  have hreferenced : shape.Enters "references_column" Draft.text
    fun referencesColumn k => { k with referencesColumn } := ⟨_, rfl, rfl⟩
  have honUpdate : shape.Enters "on_update"
    (Draft.optional (Draft.namedCase ReferentialAction.cases))
    fun onUpdate k => { k with onUpdate } := ⟨_, rfl, rfl⟩
  have honDelete : shape.Enters "on_delete"
    (Draft.optional (Draft.namedCase ReferentialAction.cases))
    fun onDelete k => { k with onDelete } := ⟨_, rfl, rfl⟩
  have h₁ := (hcolumn.writes (.text 0 k.column) shape.start).append
    ((htable.writes (.text 0 k.referencesTable) _).append
      (hreferenced.writes (.text 0 k.referencesColumn) _))
  have h₂ := h₁.append (honUpdate.writesIf k.onUpdate (ReferentialAction.keeps 0) nofun rfl)
  have h₃ := h₂.append (honDelete.writesIf k.onDelete (ReferentialAction.keeps 0) nofun rfl)
  exact h₃.keeps (by decide) (List.IsPrefix.subset ⟨_, rfl⟩) Json.Shape.endOfItems

end ForeignKey

namespace Table

theorem keeps (t : Table) : Keeps 4 read t.toJson t := by
  have hname : shape.Enters "name" Draft.text fun name t => { t with name } := ⟨_, rfl, rfl⟩
  have hengine : shape.Enters "engine" Draft.text fun engine t => { t with engine } :=
    ⟨_, rfl, rfl⟩
  have hcharset : shape.Enters "charset" Draft.text fun charset t => { t with charset } :=
    ⟨_, rfl, rfl⟩
  have hcolumns : shape.Enters "columns" (Draft.list Column.read)
    fun columns t => { t with columns } := ⟨_, rfl, rfl⟩
  have hdropped : shape.Enters "dropped_columns" (Draft.list Draft.text)
    fun droppedColumns t => { t with droppedColumns } := ⟨_, rfl, rfl⟩
  have haltered : shape.Enters "altered_columns" (Draft.list Column.read)
    fun alteredColumns t => { t with alteredColumns } := ⟨_, rfl, rfl⟩
  have hprimaryKey : shape.Enters "primary_key" (Draft.optional Draft.text)
    fun primaryKey t => { t with primaryKey } := ⟨_, rfl, rfl⟩
  have hforeignKeys : shape.Enters "foreign_keys" (Draft.list ForeignKey.shape.read)
    fun foreignKeys t => { t with foreignKeys } := ⟨_, rfl, rfl⟩
  have h₁ := (hname.writes (.text 3 t.name) shape.start).append
    ((hengine.writes (.text 3 t.engine) _).append ((hcharset.writes (.text 3 t.charset) _).append
      (hcolumns.writes (.list fun c (_ : c ∈ t.columns) => c.keeps) _)))
  have h₂ := h₁.append (hdropped.writesUnlessEmpty t.droppedColumns (fun s _ => .text 2 s) rfl)
  have h₃ := h₂.append (haltered.writesUnlessEmpty t.alteredColumns (fun c _ => c.keeps) rfl)
  have h₄ := h₃.append (hprimaryKey.writesIf t.primaryKey (.text 3) nofun rfl)
  have h₅ := h₄.append (hforeignKeys.writesUnlessEmpty t.foreignKeys
    (fun k _ => k.keeps.mono (by decide)) rfl)
  exact h₅.keeps (by decide) (List.IsPrefix.subset ⟨_, rfl⟩) Json.Shape.endOfItems

end Table

end BoundSql
