import BoundSql.Proofs.Agreement

/-! # First problems

A run that checks one thing after the other stops at the first problem. Its problems can be listed
all at once, in the order of the checks: without any the run succeeds, and otherwise it fails with
the head of the list. The lists of its parts, one behind the other, are the list of the run.
-/

namespace BoundSql

def problemIf (p : Prop) [Decidable p] (e : Error) : List Error :=
  if p then [e] else []

@[simp] theorem problemIf_eq_nil {p : Prop} [Decidable p] {e : Error} :
    problemIf p e = [] ↔ ¬ p := by
  simp [problemIf]

variable {α β : Type}

/-- A result is settled by its problems if it is there, with a property, when there are none, and
otherwise is the first of them. -/
inductive Settled (P : α → Prop) : List Error → Except Error α → Prop
  | ok {a : α} (h : P a) : Settled P [] (.ok a)
  | error (e : Error) (es : List Error) : Settled P (e :: es) (.error e)

namespace Settled

variable {P : α → Prop} {Q : β → Prop} {es es' : List Error} {x : Except Error α}

theorem exists_eq_ok_iff (h : Settled P es x) : (∃ a, x = .ok a) ↔ es = [] := by
  cases h with
  | @ok a => exact iff_of_true ⟨a, rfl⟩ rfl
  | error => exact iff_of_false (fun ⟨_, h⟩ => nomatch h) (List.cons_ne_nil _ _)

theorem eq_error_iff (h : Settled P es x) (e : Error) : x = .error e ↔ es.head? = some e := by
  cases h with
  | ok => exact iff_of_false nofun nofun
  | error => simp

theorem of_eq_ok (h : Settled P es x) {a : α} (hx : x = .ok a) : P a := by
  subst hx
  cases h with
  | ok h => exact h

theorem mono {R : α → Prop} (h : Settled P es x) (hPR : ∀ a, P a → R a) : Settled R es x := by
  cases h with
  | ok h => exact .ok (hPR _ h)
  | error e es => exact .error e es

theorem with_ok (h : Settled P es x) : Settled (fun a => P a ∧ x = .ok a) es x := by
  cases h with
  | ok h => exact .ok ⟨h, rfl⟩
  | error e es => exact .error e es

theorem bind {k : α → Except Error β} (h : Settled P es x)
    (hk : ∀ a, P a → Settled Q es' (k a)) : Settled Q (es ++ es') (x >>= k) := by
  cases h with
  | ok h => exact hk _ h
  | error e es => exact .error e (es ++ es')

theorem bind_last {k : α → Except Error β} (h : Settled P es x)
    (hk : ∀ a, P a → Settled Q [] (k a)) : Settled Q es (x >>= k) := by
  rw [← List.append_nil es]
  exact h.bind hk

theorem map {f : α → β} (h : Settled P es x) (hf : ∀ a, P a → Q (f a)) :
    Settled Q es (x.map f) := by
  cases h with
  | ok h => exact .ok (hf _ h)
  | error e es => exact .error e es

theorem guard {p : Prop} [Decidable p] {e : Error} (h : ¬ p → Settled P es x) :
    Settled P (problemIf p e ++ es) (if p then .error e else x) := by
  rw [problemIf]
  split
  · exact .error e es
  · exact h ‹_›

theorem guard_last {p : Prop} [Decidable p] {e : Error} (h : ¬ p → Settled P [] x) :
    Settled P (problemIf p e) (if p then .error e else x) := by
  rw [← List.append_nil (problemIf p e)]
  exact .guard h

theorem mapM {f : α → Except Error β} {problems : α → List Error} {R : α → β → Prop}
    {l : List α} (h : ∀ a ∈ l, Settled (R a) (problems a) (f a)) :
    Settled (List.Forall₂ R l) (l.flatMap problems) (l.mapM f) := by
  induction l with
  | nil => exact .ok .nil
  | cons a l ih =>
    rw [List.forall_mem_cons] at h
    rw [List.mapM_cons, List.flatMap_cons]
    exact h.1.bind fun b hb => (ih h.2).bind_last fun bs hbs => .ok (.cons hb hbs)

theorem forM {f : α → Except Error PUnit} {problems : α → List Error} {l : List α}
    (h : ∀ a ∈ l, Settled (fun _ => True) (problems a) (f a)) :
    Settled (fun _ => True) (l.flatMap problems) (l.forM f) := by
  induction l with
  | nil => exact .ok trivial
  | cons a l ih =>
    rw [List.forall_mem_cons] at h
    exact h.1.bind fun _ _ => ih h.2

theorem search {bad : α → Prop} [DecidablePred bad] {test : α → Bool}
    (htest : ∀ a, test a = true ↔ bad a) {error : α → Error} {l : List α} {x : Except Error Unit}
    (hx : x = (l.find? test).elim (.ok ()) (.error ∘ error)) :
    Settled (fun _ => True) (l.flatMap fun a => problemIf (bad a) (error a)) x := by
  subst hx
  induction l with
  | nil => exact .ok trivial
  | cons a l ih =>
    rw [List.flatMap_cons, List.find?_cons]
    by_cases ha : bad a
    · rw [problemIf, if_pos ha, (htest a).mpr ha]
      exact .error _ _
    · have hpass : test a = false := by
        rwa [Bool.eq_false_iff, ne_eq, htest]
      rw [problemIf_eq_nil.mpr ha, hpass]
      exact ih

end Settled

end BoundSql
