import BoundSql.Proofs.Session.Conversation

/-! # Conversations and transactions

A conversation mends what it spoils: a call of a statement that fails is followed at once by a
rollback. It also minds whose transaction is open: it begins one only if there is none, and commits
none but its own.
-/

namespace BoundSql

/-- The calls that run a statement and leave transactions alone. -/
def Call.OfStatement : Call → Prop
  | prepare _ | bind _ _ | execute | fetch => True
  | _ => False

namespace Exchange

variable {x : Exchange}

/-- A call of a statement that fails. -/
def Spoils (x : Exchange) : Prop :=
  x.call.OfStatement ∧ ¬ x.Succeeds

def Opens (x : Exchange) : Prop :=
  x.call = .begin ∧ x.Succeeds

def Undoes (x : Exchange) : Prop :=
  x.call = .rollback ∧ x.Succeeds

def Closes (x : Exchange) : Prop :=
  (x.call = .commit ∨ x.call = .rollback) ∧ x.Succeeds

theorem Undoes.closes (h : x.Undoes) : x.Closes :=
  ⟨.inr h.1, h.2⟩

theorem Undoes.not_spoils (h : x.Undoes) : ¬ x.Spoils :=
  fun hs => hs.2 h.2

theorem openAfter_of_ofStatement (h : x.call.OfStatement) (wasOpen : Bool) :
    x.openAfter wasOpen = wasOpen := by
  rcases x with ⟨c, answer⟩
  cases c <;> first | rfl | exact h.elim

theorem not_closes_of_ofStatement (h : x.call.OfStatement) : ¬ x.Closes := by
  rintro ⟨hc | hc, -⟩ <;> exact (hc ▸ h :)

end Exchange

open Exchange

variable {xs ys : List Exchange}

theorem openAfter_of_ofStatement (h : ∀ x ∈ xs, x.call.OfStatement) (wasOpen : Bool) :
    openAfter wasOpen xs = wasOpen := by
  induction xs with
  | nil => rfl
  | cons x xs ih =>
    rw [List.forall_mem_cons] at h
    rw [openAfter_cons, Exchange.openAfter_of_ofStatement h.1, ih h.2]

/-- Exchanges in which each call of a statement that fails is followed at once by a rollback. -/
inductive Mends : List Exchange → Prop
  | nil : Mends []
  | cons {x : Exchange} {xs : List Exchange} (hx : ¬ x.Spoils) (h : Mends xs) : Mends (x :: xs)
  | mend {x y : Exchange} {xs : List Exchange} (hy : y.Undoes) (h : Mends xs) : Mends (x :: y :: xs)

namespace Mends

theorem append (h : Mends xs) (k : Mends ys) : Mends (xs ++ ys) := by
  induction h with
  | nil => exact k
  | cons hx _ ih => exact .cons hx ih
  | mend hy _ ih => exact .mend hy ih

theorem of_forall (h : ∀ x ∈ xs, ¬ x.Spoils) : Mends xs := by
  induction xs with
  | nil => exact .nil
  | cons x xs ih =>
    rw [List.forall_mem_cons] at h
    exact .cons h.1 (ih h.2)

theorem undone {x : Exchange} (h : Mends (xs ++ x :: ys)) (hx : x.Spoils) :
    ∃ y zs, ys = y :: zs ∧ y.Undoes := by
  generalize ht : xs ++ x :: ys = trace at h
  induction h generalizing xs with
  | nil => simp at ht
  | cons hz _ ih =>
    cases xs with
    | nil =>
      obtain ⟨rfl, -⟩ := List.cons.inj ht
      exact absurd hx hz
    | cons z xs => exact ih (List.cons.inj ht).2
  | mend hy _ ih =>
    cases xs with
    | nil => exact ⟨_, _, (List.cons.inj ht).2, hy⟩
    | cons z xs =>
      cases xs with
      | nil =>
        obtain ⟨-, ht⟩ := List.cons.inj ht
        obtain ⟨rfl, -⟩ := List.cons.inj ht
        exact absurd hx hy.not_spoils
      | cons w xs => exact ih (List.cons.inj (List.cons.inj ht).2).2

end Mends

/-- Exchanges in which the transaction of a begin is never committed after a call of a statement has
failed in it. -/
def CommitsWhole (xs : List Exchange) : Prop :=
  ∀ before opening inside closing after,
    xs = before ++ opening :: (inside ++ closing :: after) → opening.Opens →
      closing.call = .commit → closing.Succeeds → (∀ x ∈ inside, ¬ x.Closes) →
        ∀ x ∈ inside, ¬ x.Spoils

theorem Mends.commitsWhole (h : Mends xs) : CommitsWhole xs := by
  rintro before opening inside closing after rfl - hcommit - hopen x hx hspoils
  obtain ⟨p, q, rfl⟩ := List.append_of_mem hx
  have hsplit : before ++ opening :: (p ++ x :: q ++ closing :: after) =
      (before ++ opening :: p) ++ x :: (q ++ closing :: after) := by simp
  rw [hsplit] at h
  obtain ⟨y, zs, hy, hundoes⟩ := h.undone hspoils
  cases q with
  | nil =>
    obtain ⟨rfl, -⟩ := List.cons.inj hy
    exact absurd (hcommit.symm.trans hundoes.1) (by simp)
  | cons z q =>
    obtain ⟨rfl, -⟩ := List.cons.inj hy
    exact hopen z (by simp) hundoes.closes

/-- Exchanges that leave a transaction open which they have begun. -/
def Owns (xs : List Exchange) : Prop :=
  ∃ before opening inside, xs = before ++ opening :: inside ∧ opening.Opens ∧
    ∀ x ∈ inside, ¬ x.Closes

theorem Owns.append_left (h : Owns ys) (xs : List Exchange) : Owns (xs ++ ys) := by
  obtain ⟨before, opening, inside, rfl, hopens, hinside⟩ := h
  exact ⟨xs ++ before, opening, inside, (List.append_assoc ..).symm, hopens, hinside⟩

/-- Exchanges that begin a transaction only where none is open, and commit none but their own. -/
inductive Minds (wasOpen : Bool) : List Exchange → Prop
  | nil : Minds wasOpen []
  | concat {xs : List Exchange} {x : Exchange} (h : Minds wasOpen xs)
    (hb : x.call = .begin → openAfter wasOpen xs = false) (hc : x.call = .commit → Owns xs) :
    Minds wasOpen (xs ++ [x])

namespace Minds

variable {wasOpen : Bool}

theorem append (h : Minds wasOpen xs) (k : Minds (openAfter wasOpen xs) ys) :
    Minds wasOpen (xs ++ ys) := by
  induction k with
  | nil => rwa [List.append_nil]
  | concat _ hb hc ih =>
    rw [← List.append_assoc]
    refine .concat ih (fun h => ?_) fun h => (hc h).append_left xs
    rw [openAfter_append, hb h]

theorem singleton {x : Exchange} (hb : x.call = .begin → wasOpen = false)
    (hc : x.call ≠ .commit) : Minds wasOpen [x] :=
  .concat .nil hb fun h => absurd h hc

theorem of_forall (h : ∀ x ∈ xs, x.call ≠ .begin ∧ x.call ≠ .commit) : Minds wasOpen xs := by
  induction xs generalizing wasOpen with
  | nil => exact .nil
  | cons x xs ih =>
    rw [List.forall_mem_cons] at h
    exact (singleton (fun hb => absurd hb h.1.1) h.1.2).append (ih h.2)

theorem of_ofStatement (h : ∀ x ∈ xs, x.call.OfStatement) : Minds wasOpen xs := by
  refine of_forall fun x hx => ⟨fun hb => ?_, fun hc => ?_⟩
  · exact (hb ▸ h x hx :)
  · exact (hc ▸ h x hx :)

end Minds

namespace Course

variable {cs : List Call} {e : Option Error}

theorem succeeds (h : Course cs xs none) : ∀ x ∈ xs, x.Succeeds := by
  generalize he : (none : Option Error) = e at h
  induction h with
  | nil => simp
  | cons c reply _ ih => exact List.forall_mem_cons.mpr ⟨rfl, ih he⟩
  | cut => cases he

theorem ofStatement (h : Course cs xs e) (hcs : ∀ c ∈ cs, c.OfStatement) :
    ∀ x ∈ xs, x.call.OfStatement := by
  induction h with
  | nil => simp
  | cons c reply _ ih =>
    rw [List.forall_mem_cons] at hcs
    exact List.forall_mem_cons.mpr ⟨hcs.1, ih hcs.2⟩
  | cut c cs reason => simpa using hcs c (by simp)

theorem eq_concat {e : Error} (h : Course cs xs (some e)) :
    ∃ ys y, xs = ys ++ [y] ∧ ∀ x ∈ ys, x.Succeeds := by
  generalize he : some e = e' at h
  induction h with
  | nil => cases he
  | cons c reply _ ih =>
    obtain ⟨ys, y, rfl, hys⟩ := ih he
    exact ⟨⟨c, .ok reply⟩ :: ys, y, rfl, List.forall_mem_cons.mpr ⟨rfl, hys⟩⟩
  | cut c cs reason => exact ⟨[], _, rfl, by simp⟩

/-- A last call is made only after all others have succeeded. -/
theorem of_concat {c : Call} (h : Course (cs ++ [c]) xs e) :
    (Course cs xs e ∧ e ≠ none) ∨ ∃ ys answer, xs = ys ++ [⟨c, answer⟩] ∧ Course cs ys none ∧
      (e ≠ none → ∃ reason, answer = .error reason) := by
  induction cs generalizing xs with
  | nil =>
    cases h with
    | cons c reply h =>
      cases h
      exact .inr ⟨[], _, rfl, .nil, fun he => absurd rfl he⟩
    | cut c cs reason => exact .inr ⟨[], _, rfl, .nil, fun _ => ⟨reason, rfl⟩⟩
  | cons d cs ih =>
    cases h with
    | cons d reply h =>
      rcases ih h with ⟨h, he⟩ | ⟨ys, answer, rfl, h, he⟩
      · exact .inl ⟨.cons d reply h, he⟩
      · exact .inr ⟨_ :: ys, answer, rfl, .cons d reply h, he⟩
    | cut d cs reason => exact .inl ⟨.cut d cs reason, by simp⟩

theorem mends (h : Course cs xs none) : Mends xs :=
  .of_forall fun x hx hs => hs.2 (h.succeeds x hx)

theorem mends_undone {e : Error} {y : Exchange} (h : Course cs xs (some e)) (hy : y.Undoes) :
    Mends (xs ++ [y]) := by
  obtain ⟨ys, x, rfl, hys⟩ := h.eq_concat
  rw [List.append_assoc]
  exact (Mends.of_forall fun z hz hs => hs.2 (hys z hz)).append (.mend hy .nil)

end Course

namespace Session

variable {st : Statement} {e : Option Error} {wasOpen : Bool}

theorem ofStatement_script (st : Statement) : ∀ c ∈ script st true, c.OfStatement := by
  intro c hc
  simp only [script, if_true, List.nil_append, List.append_nil, List.mem_append, List.mem_cons,
    List.mem_mapIdx] at hc
  rcases hc with (rfl | ⟨i, hi, rfl⟩) | rfl | hc
  · trivial
  · trivial
  · trivial
  · split at hc
    · simp at hc
    · rw [List.mem_singleton.mp hc]
      trivial

theorem ofStatement_course (h : Course (script st true) xs e) : ∀ x ∈ xs, x.call.OfStatement :=
  h.ofStatement (ofStatement_script st)

theorem script_false (st : Statement) :
    script st false = .begin :: (script st true ++ [.commit]) := by
  simp [script]

theorem course_script_false (h : Course (script st false) xs e) :
    (∃ reason, xs = [⟨.begin, .error reason⟩]) ∨
      ∃ reply ys, xs = ⟨.begin, .ok reply⟩ :: ys ∧ Course (script st true ++ [.commit]) ys e := by
  rw [script_false] at h
  cases h with
  | cons _ reply h => exact .inr ⟨reply, _, rfl, h⟩
  | cut _ _ reason => exact .inl ⟨reason, rfl⟩

theorem minds_course (h : Course (script st wasOpen) xs e) : Minds wasOpen xs := by
  cases wasOpen with
  | true => exact .of_ofStatement (ofStatement_course h)
  | false =>
    rcases course_script_false h with ⟨reason, rfl⟩ | ⟨reply, ys, rfl, hys⟩
    · exact .singleton (fun _ => rfl) (by simp)
    · have hb : Minds false [⟨.begin, .ok reply⟩] := .singleton (fun _ => rfl) (by simp)
      rcases hys.of_concat with ⟨hys, -⟩ | ⟨zs, answer, rfl, hzs, -⟩
      · exact hb.append (.of_ofStatement (ofStatement_course hys))
      · have hzs := ofStatement_course hzs
        refine .concat (hb.append (.of_ofStatement hzs)) (by simp) fun _ => ?_
        exact ⟨[], _, zs, rfl, ⟨rfl, rfl⟩, fun x hx => not_closes_of_ofStatement (hzs x hx)⟩

theorem eq_begin_of_course {e : Error} (h : Course (script st wasOpen) xs (some e))
    (hc : openAfter wasOpen xs = false) : ∃ reason, xs = [⟨.begin, .error reason⟩] := by
  cases wasOpen with
  | true =>
    rw [openAfter_of_ofStatement (ofStatement_course h)] at hc
    cases hc
  | false =>
    rcases course_script_false h with hx | ⟨reply, ys, rfl, hys⟩
    · exact hx
    · rcases hys.of_concat with ⟨hys, -⟩ | ⟨zs, answer, rfl, hzs, he⟩
      · rw [openAfter_cons, openAfter_of_ofStatement (ofStatement_course hys)] at hc
        cases hc
      · obtain ⟨reason, rfl⟩ := he (by simp)
        rw [openAfter_cons, openAfter_append,
          openAfter_of_ofStatement (ofStatement_course hzs)] at hc
        cases hc

variable {r : Except Error (List Row)}

theorem minds_conversation (h : Conversation (script st wasOpen) wasOpen xs r) :
    Minds wasOpen xs := by
  cases h with
  | complete h | broken h => exact minds_course h
  | abandoned h => exact .concat (minds_course h) (by simp) (by simp)

theorem mends_conversation (h : Conversation (script st wasOpen) wasOpen xs r)
    (hr : ∀ x ∈ xs, x.call = .rollback → x.Succeeds) : Mends xs := by
  cases h with
  | complete h => exact h.mends
  | broken h hc =>
    obtain ⟨reason, rfl⟩ := eq_begin_of_course h hc
    exact .of_forall (by simp [Spoils, Call.OfStatement])
  | abandoned h ho answer => exact h.mends_undone ⟨rfl, hr _ (by simp) rfl⟩

end Session

end BoundSql
