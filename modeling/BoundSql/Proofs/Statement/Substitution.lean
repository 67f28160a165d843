import BoundSql.Proofs.Text.Pieces
import BoundSql.Session.Basic

/-! # Substitution of values

A statement is rendered in one pass. Its placeholders cut the text into pieces, which are copied,
and between them stand the values in order; where the values have run out, the placeholder stays.
Nothing of a value is looked at again, and values without a placeholder are left out.
-/

namespace BoundSql

open Text (CutInto)

namespace Statement

/-- What takes the place of the placeholder at a position, counted from zero. -/
def replacement (vs : List Value) (i : Nat) : String :=
  (vs[i]?).elim "?" Value.inline

def filled (vs : List Value) : List String → String
  | [] => ""
  | first :: rest => first ++ String.join (rest.mapIdx fun i piece => replacement vs i ++ piece)

theorem renderChars_append {cs : List Char} (h : '?' ∉ cs) (rest : List Char) (vs : List Value) :
    renderChars (cs ++ rest) vs = cs ++ renderChars rest vs := by
  induction cs with
  | nil => rfl
  | cons c cs ih =>
    obtain ⟨hc, hcs⟩ := not_or.mp (List.mem_cons.not.mp h)
    rw [List.cons_append, renderChars_of_ne (Ne.symm hc), ih hcs]
    rfl

theorem renderChars_mark (cs : List Char) (vs : List Value) :
    renderChars ('?' :: cs) vs = (replacement vs 0).toList ++ renderChars cs vs.tail := by
  cases vs <;> rfl

theorem replacement_tail (vs : List Value) (i : Nat) :
    replacement vs.tail i = replacement vs (i + 1) := by
  rw [replacement, replacement, List.getElem?_tail]

theorem filled_cons_cons (vs : List Value) (first second : String) (rest : List String) :
    filled vs (first :: second :: rest) =
      first ++ (replacement vs 0 ++ filled vs.tail (second :: rest)) := by
  simp only [filled, List.mapIdx_cons, String.join_cons, replacement_tail, String.append_assoc]

theorem renderChars_intercalate {pieces : List String} (h : ∀ piece ∈ pieces, '?' ∉ piece.toList)
    (vs : List Value) :
    renderChars ("?".intercalate pieces).toList vs = (filled vs pieces).toList := by
  induction pieces generalizing vs with
  | nil => rfl
  | cons first rest ih =>
    rw [List.forall_mem_cons] at h
    cases rest with
    | nil =>
      have hend := renderChars_append h.1 [] vs
      simpa [filled, renderChars] using hend
    | cons second rest =>
      have hmark : "?".toList = ['?'] := rfl
      rw [String.intercalate_cons_cons, filled_cons_cons]
      simp only [String.toList_append, hmark, List.append_assoc, List.singleton_append]
      rw [renderChars_append h.1, renderChars_mark, ih h.2]

theorem render_eq_filled {sql : String} {pieces : List String} (h : CutInto '?' sql pieces)
    (vs : List Value) : render ⟨sql, vs⟩ = filled vs pieces := by
  obtain ⟨-, hfree, rfl⟩ := h
  rw [render, ← String.toList_inj, String.toList_ofList]
  exact renderChars_intercalate hfree vs

/-- There is one way to cut a text at its placeholders. The rendering consists of the pieces with
the inline forms of the values between them, in order and as far as there are values; so is what a
session shows of its staged text. -/
theorem render_substitutes (sql : String) (vs : List Value) :
    ∃ pieces, (∀ others, CutInto '?' sql others ↔ others = pieces) ∧
      render ⟨sql, vs⟩ = filled vs pieces ∧
      ∀ {σ : Type} (s : Session σ),
        { s with query := some sql, binds := vs }.rendered = some (filled vs pieces) := by
  have hcut (others : List String) : CutInto '?' sql others ↔ others = Text.split '?' sql := by
    rw [Text.cutInto_iff, eq_comm]
  have hrender : render ⟨sql, vs⟩ = filled vs (Text.split '?' sql) :=
    render_eq_filled ((hcut _).mpr rfl) vs
  refine ⟨Text.split '?' sql, hcut, hrender, fun s => ?_⟩
  rw [← hrender]
  rfl

/-- A mark in a value is left alone, and the last placeholder has no value. -/
example : render ⟨"a = ? OR b = ?", [.text "?"]⟩ = "a = '?' OR b = ?" := by
  decide +kernel

end Statement

end BoundSql
