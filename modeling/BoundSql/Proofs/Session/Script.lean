import BoundSql.Proofs.Text.Occurrence
import BoundSql.Session.Basic
import Mathlib.Data.List.Basic

/-! # The script of a statement

Which calls run a statement is known before the first of them is made: they depend on the statement
and on whether a transaction is open, not on the answers. A session makes these calls in order, up
to the first that fails.
-/

namespace BoundSql

namespace Session

/-- A statement without rows: after white space, its text starts with one of the keywords as a whole
word, in any case of the letters. -/
def Declarative (sql : String) : Prop :=
  ∃ blanks word rest : List Char, sql.toList = blanks ++ (word ++ rest) ∧
    (∀ c ∈ blanks, Text.isBlank c) ∧ (∃ k ∈ silentKeywords, word.map Char.toUpper = k.toList) ∧
    ∀ c ∈ rest.head?, ¬ Text.isWord c

theorem startsWithWord_iff {k : String} {cs : List Char} :
    startsWithWord k cs ↔ ∃ word rest, cs = word ++ rest ∧ word.map Char.toUpper = k.toList ∧
      ∀ c ∈ rest.head?, ¬ Text.isWord c := by
  have hk (word : List Char) :
      String.ofList (word.map Char.toUpper) = k ↔ word.map Char.toUpper = k.toList := by
    rw [← String.toList_inj, String.toList_ofList]
  simp only [startsWithWord, Bool.and_eq_true, beq_iff_eq, hk]
  constructor
  · rintro ⟨hword, hrest⟩
    refine ⟨_, _, (List.take_append_drop k.length cs).symm, hword, ?_⟩
    cases hd : cs.drop k.length with
    | nil => simp
    | cons c rest => simpa [hd] using hrest
  · rintro ⟨word, rest, rfl, hword, hrest⟩
    have hlen : k.length = word.length := by
      rw [← String.length_toList, ← hword, List.length_map]
    rw [hlen, List.take_left, List.drop_left]
    refine ⟨hword, ?_⟩
    cases rest with
    | nil => rfl
    | cons c rest => simpa using hrest

theorem keyword_eq_cons {k : String} (hk : k ∈ silentKeywords) :
    ∃ c cs, k.toList = c :: cs ∧ ¬ Text.isBlank c := by
  simp only [silentKeywords, List.mem_cons, List.not_mem_nil, or_false] at hk
  rcases hk with rfl | rfl | rfl | rfl <;> exact ⟨_, _, rfl, by decide⟩

theorem givesRows_eq_false_iff {sql : String} : givesRows sql = false ↔ Declarative sql := by
  simp only [givesRows, Bool.not_eq_false', List.any_eq_true, startsWithWord_iff]
  constructor
  · rintro ⟨k, hk, word, rest, h, hword, hrest⟩
    refine ⟨sql.toList.takeWhile Text.isBlank, word, rest, ?_, fun c hc => ?_, ⟨k, hk, hword⟩,
      hrest⟩
    · rw [← h, List.takeWhile_append_dropWhile]
    · exact List.all_eq_true.mp List.all_takeWhile c hc
  · rintro ⟨blanks, word, rest, h, hblanks, ⟨k, hk, hword⟩, hrest⟩
    refine ⟨k, hk, word, rest, ?_, hword, hrest⟩
    rw [h, List.dropWhile_append_of_pos hblanks]
    obtain ⟨d, ds, hd, hblank⟩ := keyword_eq_cons hk
    rw [hd] at hword
    cases word with
    | nil => cases hword
    | cons c cs =>
      rw [List.cons_append, List.dropWhile_cons_of_neg]
      intro hc
      rw [List.map_cons, Text.toUpper_of_isBlank hc] at hword
      exact hblank ((List.cons.inj hword).1 ▸ hc)

instance (sql : String) : Decidable (Declarative sql) :=
  decidable_of_iff (givesRows sql = false) givesRows_eq_false_iff

theorem givesRows_eq (sql : String) : givesRows sql = !decide (Declarative sql) := by
  cases h : givesRows sql with
  | false => simp [givesRows_eq_false_iff.mp h]
  | true => simp [← givesRows_eq_false_iff, h]

def script (st : Statement) (wasOpen : Bool) : List Call :=
  (if wasOpen then [] else [.begin]) ++ .prepare st.sql ::
    (st.binds.mapIdx fun i v => Call.bind (i + 1) v) ++ .execute ::
    (if Declarative st.sql then [] else [.fetch]) ++ if wasOpen then [] else [.commit]

variable {σ : Type} (b : Backend σ)

def rowsOf : Call → Reply → List Row
  | .fetch, reply => reply.rows?
  | _, _ => []

def performAll : List Call → Attempt (Session σ) (List Row)
  | [] => pure []
  | c :: cs => do
    let reply ← perform b c
    let rows ← performAll cs
    pure (rowsOf c reply ++ rows)

@[simp] theorem performAll_nil : performAll b [] = pure [] := rfl

theorem performAll_cons {c : Call} (hc : c ≠ .fetch) (cs : List Call) :
    performAll b (c :: cs) = act b c >>= fun _ => performAll b cs := by
  have h (reply : Reply) : rowsOf c reply = [] := by
    cases c with
    | fetch => exact absurd rfl hc
    | _ => rfl
  simp [performAll, act, h]

theorem performAll_binds (vs : List Value) (start : Nat) (cs : List Call) :
    performAll b (((vs.zipIdx start).map fun (v, i) => Call.bind i v) ++ cs) =
      forM ((vs.zipIdx start).map fun (v, i) => (i, v)) (fun (i, v) => act b (.bind i v)) >>=
        fun _ => performAll b cs := by
  induction vs generalizing start with
  | nil => simp
  | cons v vs ih =>
    rw [List.zipIdx_cons, List.map_cons, List.cons_append, performAll_cons b (by simp), ih]
    simp

theorem performAll_fetch : performAll b [.fetch] = fetch b := by
  simp [performAll, fetch, rowsOf]

theorem performAll_fetch_commit :
    performAll b [.fetch, .commit] = fetch b >>= fun rows => commit b >>= fun _ => pure rows := by
  simp [performAll, fetch, commit, act, rowsOf]

/-- Running a statement is making the calls of its script. -/
theorem converse_eq (st : Statement) (wasOpen : Bool) :
    converse b st (!wasOpen) = performAll b (script st wasOpen) := by
  have hbinds : (st.binds.mapIdx fun i v => Call.bind (i + 1) v) =
      (st.binds.zipIdx 1).map fun (v, i) => Call.bind i v := by
    rw [List.mapIdx_eq_zipIdx_map, List.zipIdx_succ, List.map_map]
    rfl
  rw [script, hbinds, converse, givesRows_eq]
  by_cases hd : Declarative st.sql
  · cases wasOpen with
    | false =>
      simp [hd, begin, commit, performAll_cons, performAll_binds, Bindings.numbered]
    | true => simp [hd, performAll_cons, performAll_binds, Bindings.numbered]
  · cases wasOpen with
    | false =>
      simp [hd, begin, performAll_cons, performAll_binds, Bindings.numbered,
        performAll_fetch_commit]
    | true => simp [hd, performAll_cons, performAll_binds, Bindings.numbered, performAll_fetch]

end Session

end BoundSql
