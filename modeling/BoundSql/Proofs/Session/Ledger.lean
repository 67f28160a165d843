import BoundSql.Proofs.Session.Recorded

/-! # The ledger of transactions

Whether a transaction is open can be read off the exchanges since a known moment. A transactional
backend agrees with this ledger: what opens and closes its transaction are the calls named so, when
they succeed, and nothing else.
-/

namespace BoundSql

namespace Exchange

def Succeeds (x : Exchange) : Prop :=
  x.answer.isOk

def openAfter (wasOpen : Bool) : Exchange → Bool
  | ⟨.begin, .ok _⟩ => true
  | ⟨.commit, .ok _⟩ => false
  | ⟨.rollback, .ok _⟩ => false
  | _ => wasOpen

end Exchange

def openAfter (wasOpen : Bool) (xs : List Exchange) : Bool :=
  xs.foldl Exchange.openAfter wasOpen

@[simp] theorem openAfter_cons (wasOpen : Bool) (x : Exchange) (xs : List Exchange) :
    openAfter wasOpen (x :: xs) = openAfter (x.openAfter wasOpen) xs := rfl

@[simp] theorem openAfter_append (wasOpen : Bool) (xs ys : List Exchange) :
    openAfter wasOpen (xs ++ ys) = openAfter (openAfter wasOpen xs) ys :=
  List.foldl_append

variable {σ : Type}

/-- A backend that agrees with the ledger while it is in the states `I`, which no call leaves. -/
structure Backend.Transactional (b : Backend σ) (I : σ → Prop) : Prop where
  stays : ∀ c s, I s → I (b.call c s).2
  agrees : ∀ c s, I s →
    b.inTransaction (b.call c s).2 = Exchange.openAfter (b.inTransaction s) ⟨c, (b.call c s).1⟩

/-- A recorded server that has gone on by some exchanges, each of them with an answer of the
backend, in agreement with the ledger. -/
structure Recorded.Extends (b : Backend σ) (I : σ → Prop) (r : Recorded σ) (xs : List Exchange)
    (r' : Recorded σ) : Prop where
  exchanges : r'.exchanges = r.exchanges ++ xs
  answers : ∀ x ∈ xs, ∃ t, I t ∧ x.answer = (b.call x.call t).1
  state : I r'.state
  agrees : b.inTransaction r'.state = openAfter (b.inTransaction r.state) xs

namespace Recorded.Extends

variable {b : Backend σ} {I : σ → Prop} {r r' r'' : Recorded σ} {xs ys : List Exchange}

theorem refl (h : I r.state) : Extends b I r [] r :=
  ⟨(List.append_nil _).symm, by simp, h, rfl⟩

theorem trans (h : Extends b I r xs r') (k : Extends b I r' ys r'') :
    Extends b I r (xs ++ ys) r'' := by
  refine ⟨?_, fun x hx => ?_, k.state, ?_⟩
  · rw [k.exchanges, h.exchanges, List.append_assoc]
  · exact (List.mem_append.mp hx).elim (h.answers x) (k.answers x)
  · rw [k.agrees, h.agrees, openAfter_append]

theorem call (hb : b.Transactional I) (h : I r.state) (c : Call) :
    Extends b I r [⟨c, (b.recorded.call c r).1⟩] (b.recorded.call c r).2 :=
  ⟨rfl, by simpa using ⟨r.state, h, rfl⟩, hb.stays c r.state h, hb.agrees c r.state h⟩

end Recorded.Extends

/-- A recorded server that has gone on by some exchanges, in agreement with the ledger if its
backend is transactional. -/
structure Recorded.Advances (b : Backend σ) (r : Recorded σ) (xs : List Exchange)
    (r' : Recorded σ) : Prop where
  exchanges : r'.exchanges = r.exchanges ++ xs
  agrees : ∀ {I : σ → Prop}, b.Transactional I → I r.state → r.Extends b I xs r'

namespace Recorded.Advances

variable {b : Backend σ} {r r' r'' : Recorded σ} {xs ys : List Exchange}

theorem refl (b : Backend σ) (r : Recorded σ) : Advances b r [] r :=
  ⟨(List.append_nil _).symm, fun _ => .refl⟩

theorem trans (h : Advances b r xs r') (k : Advances b r' ys r'') :
    Advances b r (xs ++ ys) r'' := by
  refine ⟨by rw [k.exchanges, h.exchanges, List.append_assoc], fun hb hr => ?_⟩
  exact (h.agrees hb hr).trans (k.agrees hb (h.agrees hb hr).state)

theorem call (b : Backend σ) (r : Recorded σ) (c : Call) :
    Advances b r [⟨c, (b.recorded.call c r).1⟩] (b.recorded.call c r).2 :=
  ⟨rfl, fun hb hr => .call hb hr c⟩

end Recorded.Advances

namespace Scripted

/-- The scripted backend is transactional while a commit or a rollback that fails closes nothing. -/
theorem transactional : backend.Transactional (·.closes = false) where
  stays c s h := by
    simp only [backend, call]
    split <;> exact h
  agrees c s h := by
    simp only [backend, call]
    cases hf : (takeFailure c.stage s.failures).1 with
    | true => cases c <;> simp [openAfter, Exchange.openAfter, h]
    | false => cases c <;> simp [openAfter, Exchange.openAfter]

theorem takeFailure_of_forall (stage : Stage) {st : Stage} {failures : List (Stage × Nat)}
    (h : ∀ f ∈ failures, f.1 ≠ st) :
    (∀ f ∈ (takeFailure stage failures).2, f.1 ≠ st) ∧ (takeFailure st failures).1 = false := by
  induction failures with
  | nil => exact ⟨h, rfl⟩
  | cons f rest ih =>
    rcases f with ⟨t, skip⟩
    rw [List.forall_mem_cons] at h
    obtain ⟨hrest, hfails⟩ := ih h.2
    constructor
    · unfold takeFailure
      split
      · split
        · exact h.2
        · exact List.forall_mem_cons.mpr h
      · exact List.forall_mem_cons.mpr ⟨h.1, hrest⟩
    · simpa [takeFailure, h.1] using hfails

/-- The states in which a rollback closes the transaction, and no rollback is going to fail. -/
def RollsBack (s : Scripted) : Prop :=
  s.closes = false ∧ ∀ f ∈ s.failures, f.1 ≠ .rollback

theorem transactional_rollsBack : backend.Transactional RollsBack where
  stays c s h := by
    have hf := (takeFailure_of_forall c.stage h.2).1
    simp only [backend, call]
    split <;> exact ⟨h.1, hf⟩
  agrees c s h := transactional.agrees c s h.1

theorem isOk_rollback {s : Scripted} (h : s.RollsBack) : (backend.call .rollback s).1.isOk := by
  have hf : ¬ (takeFailure (Call.stage .rollback) s.failures).1 :=
    Bool.eq_false_iff.mp (takeFailure_of_forall .rollback h.2).2
  simp only [backend, call]
  split
  next hfails => exact absurd hfails hf
  next => rfl

end Scripted

end BoundSql
