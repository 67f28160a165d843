import BoundSql.Proofs.Agreement
import BoundSql.Proofs.Condition.Placeholder
import BoundSql.Proofs.Condition.Validity

/-! # Runs on one list of bindings

Each step of a run either succeeds and puts its values behind the bindings, or fails and leaves the
bindings as they were. A group comes to what its members come to one after the other, except that it
binds nothing where one of them fails.
-/

namespace BoundSql.Bindings

def Step.member (p : Predicate) : Step :=
  .format p.column p.condition

/-- A step with what it gives and the bindings it leaves. -/
structure Event where
  step : Step
  result : Except Error Outcome
  left : Bindings

def course (b : Bindings) : List Step → List Event
  | [] => []
  | step :: steps => ⟨step, (b.run step).1, (b.run step).2⟩ :: (b.run step).2.course steps

def after (b : Bindings) (steps : List Step) : Bindings :=
  steps.foldl (fun b step => (b.run step).2) b

/-- Positions count from one without a gap, in the order of the values. -/
structure Counted (b : Bindings) : Prop where
  positions : b.numbered.map (·.1) = List.range' 1 b.size
  values : b.numbered.map (·.2) = b.values
  next : b.nextPosition = b.size + 1

inductive Atomic (b : Bindings) : Step → Except Error Outcome → Bindings → Prop
  | format {column : String} {c : Condition} {text : String} (valid : c.Valid)
      (placeholders : marks column = 0 → marks text = c.supplied.length) :
      Atomic b (.format column c) (.ok (.text text)) ⟨b.values ++ c.supplied⟩
  | misfit {column : String} {c : Condition} (invalid : ¬ c.Valid) :
      Atomic b (.format column c) (.error (c.fault column)) b
  | emptyGroup : Atomic b (.formatGroup []) (.ok .nothing) b
  | group {ps : List Predicate} {texts : List String} (nonempty : ps ≠ [])
      (members : (b.course (ps.map .member)).map (·.result) = texts.map fun t => .ok (.text t)) :
      Atomic b (.formatGroup ps) (.ok (.text ("(" ++ " OR ".intercalate texts ++ ")")))
        (b.after (ps.map .member))
  /-- A group fails with its first failing member and binds nothing for those before. -/
  | misfitGroup {before : List Predicate} {p : Predicate} {rest : List Predicate} {e : Error}
      (formatted : ∀ event ∈ b.course (before.map .member), ∃ o, event.result = .ok o)
      (failed : ((b.after (before.map .member)).run (.member p)).1 = .error e) :
      Atomic b (.formatGroup (before ++ p :: rest)) (.error e) b
  | push {v : Value} : Atomic b (.push v) (.ok (.position b.nextPosition)) ⟨b.values ++ [v]⟩
  | clear : Atomic b .clear (.ok .nothing) empty

/-- All steps of a run come out one after the other as they may. -/
inductive AtomicRun : Bindings → List Event → Prop
  | nil {b : Bindings} : AtomicRun b []
  | cons {b : Bindings} {event : Event} {events : List Event}
      (first : Atomic b event.step event.result event.left) (rest : AtomicRun event.left events) :
      AtomicRun b (event :: events)

theorem counted (b : Bindings) : b.Counted where
  positions := by simp [numbered, size, List.map_map, Function.comp_def]
  values := by simp [numbered, List.map_map, Function.comp_def]
  next := rfl

section Members

variable {ps : List Predicate}

theorem run_member (b : Bindings) (p : Predicate) :
    b.run (.member p) = match p.fragment with
      | .ok f => (.ok (.text f.content), b.append f.binds)
      | .error e => (.error e, b) := by
  have h := Formatter.run_condition p.column p.condition b
  simp only [Step.member, run, h, Predicate.fragment]
  cases p.condition.fragment p.column <;> rfl

theorem results_members (b : Bindings) (ps : List Predicate) :
    (b.course (ps.map .member)).map (·.result) =
      ps.map fun p => p.fragment.map fun f => .text f.content := by
  induction ps generalizing b with
  | nil => rfl
  | cons p ps ih =>
    have hp : (b.run (.member p)).1 = p.fragment.map fun f => .text f.content := by
      rw [run_member]
      cases p.fragment <;> rfl
    simp only [List.map_cons, course, hp, ih]

theorem after_members (b : Bindings) {fs : List (Fragment String)}
    (h : List.Forall₂ (fun f p => Predicate.fragment p = .ok f) fs ps) :
    b.after (ps.map .member) = b.append (fs.flatMap (·.binds)) := by
  induction h generalizing b with
  | nil => exact b.append_nil.symm
  | @cons f p fs ps hf _ ih =>
    have hp : (b.run (.member p)).2 = b.append f.binds := by rw [run_member, hf]
    rw [List.map_cons, after, List.foldl_cons, hp, ← after, ih, append_append, List.flatMap_cons]

theorem results_of_fragments (b : Bindings) {fs : List (Fragment String)}
    (h : List.Forall₂ (fun f p => Predicate.fragment p = .ok f) fs ps) :
    (b.course (ps.map .member)).map (·.result) =
      (fs.map (·.content)).map fun t => .ok (.text t) := by
  rw [results_members]
  induction h with
  | nil => rfl
  | cons hf _ ih => rw [List.map_cons, hf, ih]; rfl

theorem results_of_forall (b : Bindings) (h : ∀ p ∈ ps, ∃ f, Predicate.fragment p = .ok f) :
    ∀ event ∈ b.course (ps.map .member), ∃ o, event.result = .ok o := by
  intro event hevent
  have hresult : event.result ∈ (b.course (ps.map .member)).map (·.result) :=
    List.mem_map_of_mem hevent
  rw [results_members] at hresult
  obtain ⟨p, hp, hresult⟩ := List.mem_map.mp hresult
  obtain ⟨f, hf⟩ := h p hp
  exact ⟨.text f.content, by rw [← hresult, hf]; rfl⟩

end Members

theorem atomic_format (b : Bindings) (column : String) (c : Condition) :
    Atomic b (.format column c) (b.run (.format column c)).1 (b.run (.format column c)).2 := by
  have hsettled := c.settled_fragment column
  simp only [run, Formatter.run_condition]
  cases hf : c.fragment column with
  | ok f =>
    have hvalid : c.Valid := by simpa using hsettled.exists_eq_ok_iff.mp ⟨f, hf⟩
    have h := Atomic.format (b := b) hvalid fun hc => Condition.marks_fragment hc hf
    rw [← Condition.binds_fragment hf] at h
    exact h
  | error e =>
    have hhead := (hsettled.eq_error_iff e).mp hf
    by_cases hvalid : c.Valid
    · simp [problemIf, hvalid] at hhead
    · obtain rfl : c.fault column = e := by simpa [problemIf, hvalid] using hhead
      exact .misfit hvalid

theorem atomic_group (b : Bindings) (ps : List Predicate) :
    Atomic b (.formatGroup ps) (b.run (.formatGroup ps)).1 (b.run (.formatGroup ps)).2 := by
  cases ps with
  | nil => exact .emptyGroup
  | cons p ps =>
    simp only [run, Formatter.run_group, Predicate.groupFragment, Predicate.fragments]
    cases hfs : (p :: ps).mapM Predicate.fragment with
    | error e =>
      obtain ⟨before, q, rest, hps, hbefore, hq⟩ := exists_of_mapM_eq_error hfs
      rw [hps]
      exact .misfitGroup (b.results_of_forall hbefore) (by rw [run_member, hq])
    | ok fs =>
      have hmembers := mapM_eq_ok.mp hfs
      have h := Atomic.group (List.cons_ne_nil p ps) (b.results_of_fragments hmembers)
      rw [b.after_members hmembers] at h
      exact h

theorem atomic_run (b : Bindings) (step : Step) : Atomic b step (b.run step).1 (b.run step).2 := by
  cases step with
  | format column c => exact atomic_format b column c
  | formatGroup ps => exact atomic_group b ps
  | push v => exact .push
  | clear => exact .clear

/-- In every run each step succeeds as a whole or leaves the bindings as they were, and positions
are counted without a gap all along. -/
theorem course_atomic (b : Bindings) (steps : List Step) :
    AtomicRun b (b.course steps) ∧ b.Counted ∧
      ∀ event ∈ b.course steps, event.left.Counted := by
  refine ⟨?_, b.counted, fun event _ => event.left.counted⟩
  induction steps generalizing b with
  | nil => exact .nil
  | cons step steps ih => exact .cons (b.atomic_run step) (ih _)

/-- A test for null succeeds without binding its operand. -/
theorem not_binds_operand_of_null_test :
    empty.run (.format "closed" ⟨"not-null", .scalar (.int 1)⟩) =
        (.ok (.text "(closed IS NOT NULL)"), empty) ∧
      ¬ ∀ (b b' : Bindings) (column : String) (c : Condition) (text : String),
        b.run (.format column c) = (.ok (.text text), b') →
          b'.values = b.values ++ c.operand.values := by
  have hrun : empty.run (.format "closed" ⟨"not-null", .scalar (.int 1)⟩) =
      (.ok (.text "(closed IS NOT NULL)"), empty) := rfl
  exact ⟨hrun, fun h => absurd (h _ _ _ _ _ hrun) (by decide)⟩

end BoundSql.Bindings
