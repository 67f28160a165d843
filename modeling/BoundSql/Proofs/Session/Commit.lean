import BoundSql.Proofs.Session.Run
import BoundSql.Proofs.Session.Transaction

/-! # What is committed

Over a server on which a rollback never fails, every move of a run mends what it spoils. So no
transaction with a failed statement in it is ever committed, whoever has begun it.
-/

namespace BoundSql

def Move.Controls : Move → Prop
  | .command .begin | .command .commit | .command .rollback => True
  | _ => False

namespace Session

variable {σ α β : Type} {b : Backend σ} {I : σ → Prop}

/-- A session that has gone on by exchanges which mend what they spoil. -/
def Mended (b : Backend σ) (I : σ → Prop) (s s' : Session (Recorded σ)) : Prop :=
  ∃ xs, s.server.Extends b I xs s'.server ∧ Mends xs

/-- A session that has gone on by exchanges which mend what they spoil and mind whose transaction is
open. -/
def Orderly (b : Backend σ) (I : σ → Prop) (s s' : Session (Recorded σ)) : Prop :=
  I s.server.state → ∃ xs, s.server.Extends b I xs s'.server ∧ Mends xs ∧
    Minds (b.inTransaction s.server.state) xs

namespace Orderly

variable {s s' s'' : Session (Recorded σ)}

theorem of_server (h : s'.server = s.server) : Orderly b I s s' := by
  intro hs
  rw [h]
  exact ⟨[], .refl hs, .nil, .nil⟩

theorem trans (h : Orderly b I s s') (k : Orderly b I s' s'') : Orderly b I s s'' := by
  intro hs
  obtain ⟨xs, hx, hmends, hminds⟩ := h hs
  obtain ⟨ys, hy, kmends, kminds⟩ := k hx.state
  rw [hx.agrees] at kminds
  exact ⟨xs ++ ys, hx.trans hy, hmends.append kmends, hminds.append kminds⟩

end Orderly

def Behaves (b : Backend σ) (I : σ → Prop) (x : Attempt (Session (Recorded σ)) α) : Prop :=
  ∀ s, Orderly b I s (x.run s).2

namespace Behaves

variable {x : Attempt (Session (Recorded σ)) α}

theorem pure (a : α) : Behaves b I (Pure.pure a) :=
  fun _ => .of_server rfl

theorem ofExcept (r : Except Error α) : Behaves b I (MonadExcept.ofExcept r) := by
  intro s
  rw [Attempt.run_ofExcept]
  exact .of_server rfl

theorem modify {f : Session (Recorded σ) → Session (Recorded σ)}
    (h : ∀ s, (f s).server = s.server) : Behaves b I (modify f) :=
  fun s => .of_server (h s)

theorem bind (hx : Behaves b I x) {k : α → Attempt (Session (Recorded σ)) β}
    (hk : ∀ a, Behaves b I (k a)) : Behaves b I (x >>= k) := by
  intro s
  have h := hx s
  rw [Attempt.run_bind]
  rcases hr : x.run s with ⟨e | a, s'⟩
  · rwa [hr] at h
  · rw [hr] at h
    exact h.trans (hk a s')

theorem map (hx : Behaves b I x) (f : α → β) : Behaves b I (f <$> x) := by
  rw [← bind_pure_comp]
  exact hx.bind fun a => pure (f a)

theorem foldlM {γ : Type} {k : β → γ → Attempt (Session (Recorded σ)) β}
    (h : ∀ y c, Behaves b I (k y c)) (y : β) (cs : List γ) : Behaves b I (cs.foldlM k y) := by
  induction cs generalizing y with
  | nil => exact pure y
  | cons c cs ih =>
    rw [List.foldlM_cons]
    exact (h y c).bind ih

end Behaves

section

variable (hb : b.Transactional I) (hr : ∀ t, I t → (b.call .rollback t).1.isOk)

include hb hr

theorem behaves_execute : Behaves b I (execute b.recorded) := by
  intro s hs
  cases hst : s.staged? with
  | none =>
    rw [run_execute_of_none hst]
    exact ⟨[], .refl hs, .nil, .nil⟩
  | some st =>
    obtain ⟨xs, r, hext, hserver, hconv⟩ := run_execute hb hs hst
    rw [hserver]
    refine ⟨xs, hext, mends_conversation hconv fun x hx hcall => ?_, minds_conversation hconv⟩
    obtain ⟨t, ht, hanswer⟩ := hext.answers x hx
    rw [Exchange.Succeeds, hanswer, hcall]
    exact hr t ht

theorem behaves_runAll (statements : List Statement) : Behaves b I (runAll b.recorded statements) :=
  .foldlM (fun _ st => .bind (.modify (f := stage st) fun _ => rfl) fun _ => behaves_execute hb hr)
    [] statements

omit hr in
theorem behaves_describe (table : String) : Behaves b I (describe b.recorded table) := by
  refine .bind (fun s hs => ?_) fun _ => .pure _
  rw [run_perform]
  refine ⟨_, .call hb hs _, .of_forall ?_, .of_forall ?_⟩ <;>
    simp [Exchange.Spoils, Call.OfStatement]

omit hr in
theorem behaves_plan (operation : Schema.Operation) (t : Table) :
    Behaves b I (plan b.recorded operation t) := by
  refine .bind ?_ fun _ => .ofExcept _
  rw [inspect]
  split
  · exact behaves_describe hb t.name
  · exact .pure []

theorem behaves_carryOut {c : Command} (hc : ¬ (Move.command c).Controls) :
    Behaves b I (carryOut b.recorded c) := by
  have hsilent {x : Attempt (Session (Recorded σ)) PUnit} (h : Behaves b I x) :
      Behaves b I (silent x) :=
    h.bind fun _ => .pure _
  cases c with
  | build q delete => exact hsilent ((Behaves.ofExcept _).bind fun _ => .modify fun _ => rfl)
  | stage | setQuery | setBinds | clear => exact hsilent (.modify fun _ => rfl)
  | begin | commit | rollback => exact absurd trivial hc
  | execute => exact (behaves_execute hb hr).map _
  | describe table => exact (behaves_describe hb table).map _

theorem orderly_runOn (t : Table) (s : Session (Recorded σ)) (c : TableCommand) :
    Orderly b I s (runOn b.recorded t s c).2.2 := by
  cases c with
  | create mode =>
    simp only [runOn, create]
    rcases Schema.create t mode with e | ⟨statements, t'⟩
    · exact .of_server rfl
    · exact behaves_runAll hb hr statements s
  | plan operation =>
    have h := behaves_plan hb operation t s
    simp only [runOn]
    rcases hp : (plan b.recorded operation t).run s with ⟨_ | ⟨_, _⟩, s'⟩ <;> rwa [hp] at h
  | apply operation =>
    have h := behaves_plan hb operation t s
    simp only [runOn, apply]
    rcases hp : (plan b.recorded operation t).run s with ⟨_ | ⟨statements, t'⟩, s'⟩
    · rwa [hp] at h
    · rw [hp] at h
      exact h.trans (behaves_runAll hb hr statements s')
  | alter =>
    exact Behaves.bind (behaves_describe hb t.name) (fun _ => (Behaves.ofExcept _).bind fun _ =>
      behaves_runAll hb hr _) s
  | addIndex name columns unique =>
    exact Behaves.bind (behaves_describe hb t.name) (fun _ => (Behaves.ofExcept _).bind fun _ =>
      (behaves_runAll hb hr _).bind fun _ => .pure _) s

theorem orderly_move (s : Session (Recorded σ)) {m : Move} (hm : ¬ m.Controls) :
    Orderly b I s (move b.recorded s m) := by
  cases m with
  | command c => exact behaves_carryOut hb hr hm s
  | onTable t c => exact orderly_runOn hb hr t s c

omit hr in
theorem mended_act {c : Call} (hc : ¬ c.OfStatement) {s : Session (Recorded σ)}
    (hs : I s.server.state) : Mended b I s ((silent (act b.recorded c)).run s).2 := by
  have hserver : ((silent (act b.recorded c)).run s).2.server = (b.recorded.call c s.server).2 := by
    rw [silent, act, Attempt.run_bind, Attempt.run_bind, run_perform]
    rcases b.recorded.call c s.server with ⟨_ | _, _⟩ <;> rfl
  rw [Mended, hserver]
  exact ⟨_, .call hb hs c, .of_forall (by simp [Exchange.Spoils, hc])⟩

omit hr in
theorem mended_controls {s : Session (Recorded σ)} (hs : I s.server.state) {m : Move}
    (hm : m.Controls) : Mended b I s (move b.recorded s m) := by
  cases m with
  | command c =>
    cases c with
    | begin | commit | rollback => exact mended_act hb id hs
    | _ => exact hm.elim
  | onTable t c => exact hm.elim

theorem mended_move {s : Session (Recorded σ)} (hs : I s.server.state) (m : Move) :
    Mended b I s (move b.recorded s m) := by
  by_cases hm : m.Controls
  · exact mended_controls hb hs hm
  · obtain ⟨xs, hx, hmends, -⟩ := orderly_move hb hr s hm hs
    exact ⟨xs, hx, hmends⟩

theorem mended_play {s : Session (Recorded σ)} (hs : I s.server.state) (moves : List Move) :
    Mended b I s (play b.recorded s moves) := by
  induction moves generalizing s with
  | nil => exact ⟨[], .refl hs, .nil⟩
  | cons m moves ih =>
    obtain ⟨xs, hx, hmends⟩ := mended_move hb hr hs m
    obtain ⟨ys, hy, kmends⟩ := ih hx.state
    exact ⟨xs ++ ys, hx.trans hy, hmends.append kmends⟩

end

/-- A run never commits a transaction in which a call of a statement has failed. A move of the
session begins a transaction only where none is open, and commits none but its own. -/
theorem play_commitsWhole (hb : b.Transactional I) (hr : ∀ t, I t → (b.call .rollback t).1.isOk)
    {s : Session σ} (hs : I s.server) (moves : List Move) :
    let after := play b.recorded s.recorded moves
    after.plain = play b s moves ∧ CommitsWhole after.server.exchanges ∧
      ∀ m : Move, ¬ m.Controls → ∃ xs, Minds (isOpen b after.plain) xs ∧
        (move b.recorded after m).server.exchanges = after.server.exchanges ++ xs := by
  obtain ⟨xs, hx, hmends⟩ := mended_play hb hr (s := s.recorded) hs moves
  refine ⟨plain_play b s.recorded moves, ?_, fun m hm => ?_⟩
  · rw [hx.exchanges]
    exact hmends.commitsWhole
  · obtain ⟨ys, hy, -, hminds⟩ := orderly_move hb hr _ hm hx.state
    exact ⟨ys, hminds, hy.exchanges⟩

/-- A bind that fails in a transaction of the user's own. The commit that follows closes nothing,
and the next statement has a transaction to itself. -/
theorem play_commitsWhole_of_failing_bind :
    let s : Session Scripted := { server := { failures := [(.bind, 0)] } }
    let st : Statement := ⟨"UPDATE t SET a = ?", [.null]⟩
    let moves : List Move :=
      [.begin, .stage st, .execute, .commit, .execute].map .command
    let after := play Scripted.backend.recorded s.recorded moves
    after.server.exchanges.map (fun x => (x.call, x.answer.isOk)) =
        [(.begin, true), (.prepare st.sql, true), (.bind 1 .null, false), (.rollback, true),
          (.commit, true), (.begin, true), (.prepare st.sql, true), (.bind 1 .null, true),
          (.execute, true), (.fetch, true), (.commit, true)] ∧
      CommitsWhole after.server.exchanges := by
  intro s st moves after
  have hs : s.server.RollsBack := ⟨rfl, by simp [s]⟩
  have h := play_commitsWhole Scripted.transactional_rollsBack (fun _ => Scripted.isOk_rollback) hs
    moves
  refine ⟨by decide +kernel, ?_⟩
  unfold after
  exact h.2.1

end Session

end BoundSql
