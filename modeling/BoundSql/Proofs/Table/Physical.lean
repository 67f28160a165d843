import BoundSql.Proofs.Text.Utf8
import BoundSql.Table.Physical

/-! # Columns described in bytes

A server may send a text as bytes. What a row says is asked for as text, and bytes of a text have
this text, so a row describes the same column whichever of its texts arrive as bytes.
-/

namespace BoundSql

def Value.asBytes : Value → Value
  | .text s => .blob (Text.Utf8.encode s)
  | v => v

theorem Value.toText_blob_encode (s : String) : (blob (Text.Utf8.encode s)).toText = some s := by
  rw [toText, Text.Utf8.lenient_encode]

theorem Value.toText_asBytes (v : Value) : v.asBytes.toText = v.toText := by
  cases v with
  | text s => exact toText_blob_encode s
  | _ => rfl

namespace Row

/-- The row with its texts as bytes in the chosen cells, which are counted from zero. -/
def asBytes (chosen : Nat → Bool) (row : Row) : Row :=
  ⟨row.cells.mapIdx fun i (column, v) => (column, if chosen i then v.asBytes else v)⟩

theorem getText?_asBytes (chosen : Nat → Bool) (row : Row) (column : String) :
    (row.asBytes chosen).getText? column = row.getText? column := by
  obtain ⟨cells⟩ := row
  simp only [getText?, get?, asBytes]
  induction cells generalizing chosen with
  | nil => rfl
  | cons cell cells ih =>
    obtain ⟨name, v⟩ := cell
    simp only [List.mapIdx_cons, List.lookup_cons]
    cases column == name with
    | true =>
      simp only [Option.bind_some]
      split
      · exact v.toText_asBytes
      · rfl
    | false => exact ih fun i => chosen (i + 1)

end Row

/-- The bytes of a text have the text. A row describes a column exactly if it does with any of its
texts as bytes, and the same column. -/
theorem PhysicalColumn.ofRow_asBytes :
    (∀ s : String, (Value.blob (Text.Utf8.encode s)).toText = some s) ∧
    ∀ (chosen : Nat → Bool) (row : Row), ofRow? (row.asBytes chosen) = ofRow? row := by
  refine ⟨Value.toText_blob_encode, fun chosen row => ?_⟩
  simp only [ofRow?, Row.getText?_asBytes]

/-- A name of four bytes a letter, and a repeated cell of which the first counts. -/
example :
    let row : Row := ⟨[("Null", .text "yes"), ("Field", .text "𝒂é"), ("Field", .text "b")]⟩
    let column : PhysicalColumn := ⟨"𝒂é", "", true, "", none, ""⟩
    row.asBytes (· != 0) = ⟨[("Null", .text "yes"),
        ("Field", .blob [0xf0, 0x9d, 0x92, 0x82, 0xc3, 0xa9]), ("Field", .blob [0x62])]⟩ ∧
      PhysicalColumn.ofRow? (row.asBytes (· != 0)) = some column := by
  decide +kernel

end BoundSql
