import BoundSql.Error
import Mathlib.Data.List.Forall2

/-! # Results of runs

What a run comes to by the results of its parts, and what two runs come to, one beside the other:
they succeed together or fail with one error. A relation between the results of the parts is carried
to the results of the whole.
-/

namespace BoundSql

section

variable {ε α β : Type} {x : Except ε α}

theorem bind_eq_ok {f : α → Except ε β} {b : β} :
    x >>= f = .ok b ↔ ∃ a, x = .ok a ∧ f a = .ok b := by
  cases x with
  | error e => exact ⟨nofun, fun ⟨_, h, _⟩ => nomatch h⟩
  | ok a => exact ⟨fun h => ⟨a, rfl, h⟩, fun ⟨_, ha, h⟩ => by cases ha; exact h⟩

theorem map_eq_ok {f : α → β} {b : β} :
    f <$> x = .ok b ↔ ∃ a, x = .ok a ∧ f a = b := by
  cases x with
  | error e => exact ⟨nofun, fun ⟨_, h, _⟩ => nomatch h⟩
  | ok a => exact ⟨fun h => ⟨a, rfl, Except.ok.inj h⟩, fun ⟨_, ha, h⟩ => by cases ha; rw [← h]; rfl⟩

theorem mapM_eq_ok {f : α → Except ε β} {as : List α} {bs : List β} :
    as.mapM f = .ok bs ↔ List.Forall₂ (fun b a => f a = .ok b) bs as := by
  constructor
  · intro h
    induction as generalizing bs with
    | nil =>
      obtain rfl := Except.ok.inj h
      exact .nil
    | cons a as ih =>
      rw [List.mapM_cons, bind_eq_ok] at h
      obtain ⟨b, hab, h⟩ := h
      obtain ⟨bs', hs, h⟩ := bind_eq_ok.mp h
      obtain rfl := Except.ok.inj h
      exact .cons hab (ih hs)
  · intro h
    induction h with
    | nil => rfl
    | cons hab _ ih =>
      rw [List.mapM_cons, hab, ih]
      rfl

theorem mapM_append_cons_eq_ok {f : α → Except ε β} {before after : List α} {a : α}
    {bs : List β} : (before ++ a :: after).mapM f = .ok bs ↔
      ∃ front b back, before.mapM f = .ok front ∧ f a = .ok b ∧ after.mapM f = .ok back ∧
        bs = front ++ b :: back := by
  rw [List.mapM_append, bind_eq_ok]
  constructor
  · rintro ⟨front, hfront, h⟩
    obtain ⟨rest, hrest, h⟩ := bind_eq_ok.mp h
    obtain rfl := Except.ok.inj h
    rw [List.mapM_cons, bind_eq_ok] at hrest
    obtain ⟨b, hb, hrest⟩ := hrest
    obtain ⟨back, hback, hrest⟩ := bind_eq_ok.mp hrest
    obtain rfl := Except.ok.inj hrest
    exact ⟨front, b, back, hfront, hb, hback, rfl⟩
  · rintro ⟨front, b, back, hfront, hb, hback, rfl⟩
    refine ⟨front, hfront, ?_⟩
    rw [List.mapM_cons, hb, hback]
    rfl

theorem exists_of_mapM_eq_error {f : α → Except ε β} {as : List α} {e : ε}
    (h : as.mapM f = .error e) : ∃ before a after,
      as = before ++ a :: after ∧ (∀ x ∈ before, ∃ b, f x = .ok b) ∧ f a = .error e := by
  induction as with
  | nil => cases h
  | cons a as ih =>
    cases ha : f a with
    | error e' =>
      rw [List.mapM_cons, ha] at h
      obtain rfl := Except.error.inj h
      exact ⟨[], a, as, rfl, nofun, ha⟩
    | ok b =>
      cases hs : as.mapM f with
      | ok bs => rw [List.mapM_cons, ha, hs] at h; cases h
      | error e' =>
        rw [List.mapM_cons, ha, hs] at h
        obtain rfl := Except.error.inj h
        obtain ⟨before, a', after, rfl, hbefore, ha'⟩ := ih hs
        exact ⟨a :: before, a', after, rfl, List.forall_mem_cons.mpr ⟨⟨b, ha⟩, hbefore⟩, ha'⟩

end

variable {α β γ δ : Type}

theorem map_eq_of_forall₂ {R : α → β → Prop} {f : α → γ} {g : β → γ}
    (hfg : ∀ a b, R a b → f a = g b) {as : List α} {bs : List β} (h : List.Forall₂ R as bs) :
    as.map f = bs.map g := by
  rw [← List.forall₂_eq_eq_eq, List.forall₂_map_left_iff, List.forall₂_map_right_iff]
  exact h.imp hfg

/-- Two results agree if both are there and related, or if both fail with one error. -/
inductive Agree (S : α → β → Prop) : Except Error α → Except Error β → Prop
  | ok {a : α} {b : β} (h : S a b) : Agree S (.ok a) (.ok b)
  | error (e : Error) : Agree S (.error e) (.error e)

namespace Agree

variable {R : α → β → Prop} {S : γ → δ → Prop}

theorem bind {x : Except Error α} {y : Except Error β} {k : α → Except Error γ}
    {l : β → Except Error δ} (h : Agree R x y) (hk : ∀ {a b}, R a b → Agree S (k a) (l b)) :
    Agree S (x >>= k) (y >>= l) := by
  cases h with
  | ok h => exact hk h
  | error e => exact .error e

theorem map {x : Except Error α} {y : Except Error β} {f : α → γ} {g : β → δ}
    (h : Agree R x y) (hf : ∀ {a b}, R a b → S (f a) (g b)) : Agree S (x.map f) (y.map g) := by
  cases h with
  | ok h => exact .ok (hf h)
  | error e => exact .error e

theorem mapM {f : α → Except Error γ} {g : β → Except Error δ}
    (hf : ∀ a b, R a b → Agree S (f a) (g b)) {l : List α} {l' : List β}
    (h : List.Forall₂ R l l') : Agree (List.Forall₂ S) (l.mapM f) (l'.mapM g) := by
  induction h with
  | nil => exact .ok .nil
  | cons hab _ ih =>
    rw [List.mapM_cons, List.mapM_cons]
    exact (hf _ _ hab).bind fun hc => ih.bind fun hs => .ok (.cons hc hs)

section

variable {R S : α → β → Prop} {x : Except Error α} {y : Except Error β}

theorem mono (h : Agree R x y) (hRS : ∀ {a b}, R a b → S a b) : Agree S x y := by
  cases h with
  | ok h => exact .ok (hRS h)
  | error e => exact .error e

theorem with_ok (h : Agree R x y) : Agree (fun a b => R a b ∧ x = .ok a ∧ y = .ok b) x y := by
  cases h with
  | ok h => exact .ok ⟨h, rfl, rfl⟩
  | error e => exact .error e

theorem of_eq {x y : Except Error α} (h : x = y) : Agree (· = ·) x y := by
  subst h
  cases x with
  | ok a => exact .ok rfl
  | error e => exact .error e

end

end Agree

end BoundSql
