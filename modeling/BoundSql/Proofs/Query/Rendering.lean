import BoundSql.Proofs.Query.Alignment
import BoundSql.Proofs.Value.Inline
import Mathlib.Data.List.Chain

/-! # Renderings of queries

Behind every placeholder of a built statement stands a delimiter, in front of which the inline form
of a value ends. So the rendering of the statement tells which values were put in, whatever
characters they hold.
-/

namespace BoundSql

/-- A text in which a delimiter stands behind every placeholder but a last one. -/
def Spaced (s : String) : Prop :=
  s.toList.IsChain fun c d => c = '?' → Delimits d

instance (s : String) : Decidable (Spaced s) :=
  inferInstanceAs (Decidable (s.toList.IsChain _))

structure Closed (s : String) : Prop where
  spaced : Spaced s
  last : '?' ∉ s.toList.getLast?

theorem Closed.of_marks {s : String} (h : marks s = 0) : Closed s := by
  have hmark : '?' ∉ s.toList := List.count_eq_zero.mp h
  refine ⟨?_, fun hlast => hmark (List.mem_of_getLast? hlast)⟩
  refine (List.pairwise_of_forall_mem_list fun c hc _ _ h => ?_).isChain
  exact absurd (h ▸ hc) hmark

namespace Spaced

variable {s t : String}

theorem append (hs : Spaced s) (ht : Spaced t) {d : Char} {ds : List Char}
    (hd : t.toList = d :: ds) (hdelim : Delimits d) : Spaced (s ++ t) := by
  rw [Spaced, String.toList_append]
  refine List.IsChain.append hs ht fun _ _ c hc _ => ?_
  rw [hd] at hc
  exact Option.some.inj hc ▸ hdelim

theorem append_closed (hs : Closed s) (ht : Spaced t) : Spaced (s ++ t) := by
  rw [Spaced, String.toList_append]
  exact List.IsChain.append hs.spaced ht fun c hc _ _ hmark => absurd (hmark ▸ hc) hs.last

/-- Spaced texts stay so with a separator between them that starts with a delimiter. -/
theorem intercalate {sep : String} (hsep : Closed sep) {d : Char} {ds : List Char}
    (hd : sep.toList = d :: ds) (hdelim : Delimits d) {ss : List String}
    (h : ∀ s ∈ ss, Spaced s) : Spaced (sep.intercalate ss) := by
  induction ss with
  | nil => simpa using (Closed.of_marks marks_empty).spaced
  | cons s ss ih =>
    rw [List.forall_mem_cons] at h
    cases ss with
    | nil => simpa using h.1
    | cons t ss =>
      have hlead : (sep ++ sep.intercalate (t :: ss)).toList =
          d :: (ds ++ (sep.intercalate (t :: ss)).toList) := by
        rw [String.toList_append, hd, List.cons_append]
      rw [String.intercalate_cons_cons, String.append_assoc]
      exact h.1.append (append_closed hsep (ih h.2)) hlead hdelim

end Spaced

namespace Closed

variable {s t : String}

theorem append (hs : Closed s) (ht : Closed t) : Closed (s ++ t) := by
  refine ⟨Spaced.append_closed hs ht.spaced, ?_⟩
  have hlast := ht.last
  rw [String.toList_append, List.getLast?_append]
  cases hl : t.toList.getLast? with
  | none => exact hs.last
  | some c => rwa [hl] at hlast

theorem enclosed (h : Spaced s) : Closed (Formatter.enclosed s) := by
  constructor
  · exact (Spaced.append_closed (.of_marks (by decide)) h).append (by decide) rfl (by decide)
  · have hlast : ")".toList.getLast? = some ')' := rfl
    rw [Formatter.enclosed, String.toList_append, List.getLast?_append, hlast,
      Option.some_or]
    decide

end Closed

theorem Operator.spaced_text {column : String} (hc : marks column = 0) (op : Operator)
    (count : Nat) : Spaced (op.text column count) := by
  have hm : marks " " = 0 ∧ marks " (" = 0 ∧ marks "," = 0 ∧ marks " OR " = 0 := by decide
  have hop : Closed (column ++ " " ++ op.sql) := .of_marks (by simp [hc, hm, marks_sql])
  cases op with
  | isNull | isNotNull => exact hop.spaced
  | between => exact .append_closed (.of_marks hc) (by decide)
  | among | notAmong =>
    have hmarks : Spaced (",".intercalate (List.replicate count "?")) := by
      refine .intercalate (.of_marks hm.2.2.1) rfl (by decide) fun s hs => ?_
      rw [(List.mem_replicate.mp hs).2]
      decide
    have hopen := hop.append (.of_marks hm.2.1)
    exact (Spaced.append_closed hopen hmarks).append (by decide) rfl (by decide)
  | _ =>
    refine .intercalate (.of_marks hm.2.2.2) rfl (by decide) fun s hs => ?_
    rw [(List.mem_replicate.mp hs).2]
    exact .append_closed hop (by decide)

theorem Piece.Sound.closed {x : Piece} (h : x.Sound)
    (hc : ∀ p, x.owner = some p → BoundSql.marks p.column = 0) : Closed x.text := by
  cases ho : x.owner with
  | none =>
    have hmarks := h.marks
    rw [Piece.supplied, ho] at hmarks
    exact .of_marks hmarks
  | some p =>
    obtain ⟨op, count, htext⟩ := (h.formats p ho).eq_enclosed
    rw [htext]
    exact .enclosed (op.spaced_text (hc p ho) count)

theorem Composed.closed {s : String} {ps : List Predicate} (h : Composed s ps)
    (hc : ∀ p ∈ ps, marks p.column = 0) : Closed s := by
  obtain ⟨xs, rfl, rfl, hxs⟩ := h
  induction xs with
  | nil => exact .of_marks marks_empty
  | cons x xs ih =>
    rw [List.forall_mem_cons] at hxs
    have hjoin : Piece.join (x :: xs) = x.text ++ Piece.join xs := by simp [Piece.join]
    rw [hjoin]
    refine (hxs.1.closed fun p ho => ?_).append (ih hxs.2 fun p hp => ?_)
    · exact hc p (List.mem_filterMap.mpr ⟨x, List.mem_cons_self, ho⟩)
    · obtain ⟨y, hy, ho⟩ := List.mem_filterMap.mp hp
      exact hc p (List.mem_filterMap.mpr ⟨y, List.mem_cons_of_mem x hy, ho⟩)

theorem Query.closed_build {q : Query} (hq : q.Unmarked) {delete : Bool} {st : Statement}
    (h : q.build delete = .ok st) : Closed st.sql := by
  obtain ⟨f, hf, rfl⟩ := exists_fragment_of_build h
  exact (composed_sql hq delete (carried_fragment hq hf).texts).closed hq.columns

namespace Statement

/-- Where a delimiter stands behind every placeholder, the values are determined. -/
theorem renderChars_inj {cs : List Char} (hcs : cs.IsChain fun c d => c = '?' → Delimits d)
    (hlast : '?' ∉ cs.getLast?) {vs ws : List Value} (hvs : vs.length ≤ cs.count '?')
    (hws : ws.length ≤ cs.count '?') (hv : ∀ v ∈ vs, ¬ v.isFloat) (hw : ∀ w ∈ ws, ¬ w.isFloat)
    (h : renderChars cs vs = renderChars cs ws) : vs = ws := by
  induction cs generalizing vs ws with
  | nil =>
    rw [List.count_nil, Nat.le_zero, List.length_eq_zero_iff] at hvs hws
    rw [hvs, hws]
  | cons c cs ih =>
    have htail : '?' ∉ cs.getLast? := by
      intro hmem
      rw [List.getLast?_cons, hmem] at hlast
      exact hlast rfl
    have hchain := List.isChain_cons.mp hcs
    by_cases hc : c = '?'
    · subst hc
      rw [List.count_cons_self] at hvs hws
      obtain ⟨d, ds, rfl⟩ : ∃ d ds, cs = d :: ds := by
        cases cs with
        | nil => exact absurd rfl hlast
        | cons d ds => exact ⟨d, ds, rfl⟩
      have hd : Delimits d := hchain.1 d rfl rfl
      have hmark : d ≠ '?' := by rintro rfl; exact absurd hd (by decide)
      cases vs with
      | nil =>
        cases ws with
        | nil => rfl
        | cons w ws => exact absurd h.symm (w.inline_append_ne_mark _ _)
      | cons v vs =>
        rw [List.forall_mem_cons] at hv
        cases ws with
        | nil => exact absurd h (v.inline_append_ne_mark _ _)
        | cons w ws =>
          rw [List.forall_mem_cons] at hw
          simp only [renderChars, if_true, if_neg hmark] at h
          obtain ⟨rfl, hrest⟩ := Value.inline_append_inj hv.1 hw.1 hd h
          refine congrArg (v :: ·) (ih hchain.2 htail ?_ ?_ hv.2 hw.2 ?_)
          · simpa using hvs
          · simpa using hws
          · rw [renderChars_of_ne hmark, renderChars_of_ne hmark, hrest]
    · rw [List.count_cons_of_ne hc] at hvs hws
      rw [renderChars_of_ne hc, renderChars_of_ne hc] at h
      exact ih hchain.2 htail hvs hws hv hw (List.cons.inj h).2

end Statement

/-- No two lists of values without doubles, as far as there are placeholders for them, have the same
rendering in the statement of a query that pastes no placeholder. -/
theorem Query.render_build_inj {q : Query} (hq : q.Unmarked) {delete : Bool} {st : Statement}
    (h : q.build delete = .ok st) {vs ws : List Value} (hvs : vs.length ≤ marks st.sql)
    (hws : ws.length ≤ marks st.sql) (hv : ∀ v ∈ vs, ¬ v.isFloat) (hw : ∀ w ∈ ws, ¬ w.isFloat) :
    { st with binds := vs }.render = { st with binds := ws }.render ↔ vs = ws := by
  have hclosed := Query.closed_build hq h
  refine ⟨fun hrender => ?_, fun hvw => by rw [hvw]⟩
  exact Statement.renderChars_inj hclosed.spaced hclosed.last hvs hws hv hw
    (String.ofList_injective hrender)

/-- Texts with quotes, commas and marks that would look alike if they were put in as they are, and a
list that is shorter than the other. -/
theorem Query.render_build_inj_of_hostile :
    let q : Query := {
      table := "accounts"
      select := ["id"]
      filters := [⟨"role", [.among [.null, .null]]⟩, ⟨"data", [.compare .equal .null]⟩] }
    let st : Statement := ⟨"SELECT id FROM accounts AS main_table WHERE (role IN (?,?)) AND " ++
      "(data = ?);", [.null, .null, .null]⟩
    let vs : List Value := [.text "a','b", .text "c\\", .blob [39, 41]]
    let ws : List Value := [.text "a", .text "b','c\\') AND (data = ?"]
    q.Unmarked ∧ q.build false = .ok st ∧ (vs.length ≤ marks st.sql ∧ ws.length ≤ marks st.sql) ∧
      ((∀ v ∈ vs, ¬ v.isFloat) ∧ ∀ w ∈ ws, ¬ w.isFloat) ∧
      ({ st with binds := vs }.render = { st with binds := ws }.render ↔ vs = ws) := by
  intro q st vs ws
  have hq : q.Unmarked := by constructor <;> decide
  have h : q.build false = .ok st := by decide +kernel
  have hlengths : vs.length ≤ marks st.sql ∧ ws.length ≤ marks st.sql := by decide
  have hfloats : (∀ v ∈ vs, ¬ v.isFloat) ∧ ∀ w ∈ ws, ¬ w.isFloat := by decide
  exact ⟨hq, h, hlengths, hfloats,
    Query.render_build_inj hq h hlengths.1 hlengths.2 hfloats.1 hfloats.2⟩

end BoundSql
