import BoundSql.Proofs.Json.Record
import BoundSql.Proofs.Text.Pieces
import BoundSql.Proofs.Value.Inline
import BoundSql.Statement

/-! # Lines of statements

A document without doubles is written on one line, since its strings escape what would break it. So
the lines that are printed for some statements are cut apart again at the line feeds, and each is
the document of its statement.
-/

namespace BoundSql

namespace Json

theorem newline_not_mem_escapeChar (c : Char) : '\n' ∉ escapeChar c := by
  have hdigit : ∀ n < 16, '\n' ≠ n.digitChar := by decide
  have hhex (n : Nat) : '\n' ≠ Text.hexDigit n := hdigit _ (Nat.mod_lt n (by decide))
  unfold escapeChar
  split_ifs with _ _ _ _ hn
  case neg => simpa using fun h => hn h.symm
  all_goals simp [hhex]

theorem Token.newline_not_mem_text {t : Token} (h : t.Written) : '\n' ∉ t.text := by
  cases t with
  | number n =>
    cases n with
    | error defect => exact h.elim
    | ok n =>
      cases n with
      | integer n =>
        intro hmem
        rcases Value.mem_toString_int hmem with hc | hc <;> exact absurd hc (by decide)
      | float x => exact h.elim
  | string s =>
    cases s with
    | error defect => exact h.elim
    | ok s => simp [text, newline_not_mem_escapeChar]
  | bool b => cases b <;> decide
  | damaged | stray => exact h.elim
  | _ => decide

theorem Plain.newline_not_mem_render {n : Nat} {j : Json} (h : Plain n j) :
    '\n' ∉ j.render.toList := by
  rw [render, String.toList_ofList]
  intro hmem
  obtain ⟨t, ht, hc⟩ := List.mem_flatMap.mp hmem
  exact t.newline_not_mem_text (h.legible.1 t ht) hc

def Draft.json (d : Draft) : Read Json :=
  Read.ofExcept d.whole

theorem Plain.keeps {n : Nat} {j : Json} (h : Plain n j) : Keeps n Draft.json j j := by
  refine ⟨fun d hd => ?_, h⟩
  rw [Draft.json, show d.whole = .ok j from hd]
  rfl

end Json

namespace Text

theorem split_join_lines {lines : List String} (h : ∀ line ∈ lines, '\n' ∉ line.toList) :
    split '\n' (String.join (lines.map (· ++ "\n"))) = lines ++ [""] := by
  suffices hchars : splitChars '\n' (String.join (lines.map (· ++ "\n"))).toList =
      lines.map String.toList ++ [[]] by
    rw [split, hchars]
    simp [Function.comp_def]
  induction lines with
  | nil => rfl
  | cons line lines ih =>
    rw [List.forall_mem_cons] at h
    have hjoin : (String.join ((line :: lines).map (· ++ "\n"))).toList =
        line.toList ++ '\n' :: (String.join (lines.map (· ++ "\n"))).toList := by
      simp
    rw [hjoin, splitChars_append h.1, ih h.2]
    rfl

end Text

namespace Statement

/-- A line that is the document of a statement: an object with its text, and with its values one by
one. -/
def ShownBy (st : Statement) (line : String) : Prop :=
  ∃ items, (Json.Document.ofString line).read Json.Draft.json =
      .ok (.object [("sql", .string st.sql), ("binds", .array items)]) ∧
    items.map Value.ofJson? = st.binds.map some

variable {st : Statement}

theorem plain (h : ∀ v ∈ st.binds, ¬ v.isFloat) : Json.Plain 3 st.toJson := by
  refine .object ?_
  simp only [List.forall_mem_cons]
  refine ⟨.string 2 _, .array fun j hj => ?_, nofun⟩
  obtain ⟨v, hv, rfl⟩ := List.mem_map.mp hj
  exact Value.plain (h v hv)

theorem shownBy_render (h : ∀ v ∈ st.binds, ¬ v.isFloat) : st.ShownBy st.toJson.render := by
  refine ⟨st.binds.map Value.toJson, (plain h).keeps.read_ofString (by decide), ?_⟩
  rw [List.map_map]
  exact List.map_congr_left fun v hv => Value.ofJson?_toJson (h v hv)

end Statement

end BoundSql
