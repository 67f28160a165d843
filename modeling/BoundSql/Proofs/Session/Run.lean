import BoundSql.Proofs.Session.Ledger

/-! # Runs

A run is a list of moves: commands of a session, and commands on tables. A move that fails ends
nothing, the next one goes on from the session that is left. The record of a run holds the exchanges
of all moves and changes none of them.
-/

namespace BoundSql

/-- A command, with the table it works on if it needs one. -/
inductive Move where
  | command (c : Command)
  | onTable (t : Table) (c : TableCommand)

namespace Session

variable {σ : Type} (b : Backend σ)

def move (s : Session σ) : Move → Session σ
  | .command c => (run b s c).2
  | .onTable t c => (runOn b t s c).2.2

def play (s : Session σ) (moves : List Move) : Session σ :=
  moves.foldl (move b) s

theorem mirrors_silent {x : Attempt (Session σ) PUnit} {y : Attempt (Session (Recorded σ)) PUnit}
    (h : Mirrors x y) : Mirrors (silent x) (silent y) :=
  h.bind fun _ => .pure _

theorem mirrors_carryOut (c : Command) : Mirrors (carryOut b c) (carryOut b.recorded c) := by
  cases c with
  | build q delete => exact mirrors_silent ((Mirrors.ofExcept _).bind fun _ => .modify fun _ => rfl)
  | stage | setQuery | setBinds | clear => exact mirrors_silent (.modify fun _ => rfl)
  | begin | commit | rollback => exact mirrors_silent (mirrors_act b _)
  | execute => exact (mirrors_execute b).map _
  | describe table => exact (mirrors_describe b table).map _

theorem mirrors_alter (t : Table) : Mirrors (alter b t) (alter b.recorded t) :=
  (mirrors_describe b t.name).bind fun _ => (Mirrors.ofExcept _).bind fun _ => mirrors_runAll b _

theorem mirrors_addIndex (t : Table) (name columns : String) (unique : Bool) :
    Mirrors (addIndex b t name columns unique) (addIndex b.recorded t name columns unique) :=
  (mirrors_describe b t.name).bind fun _ => (Mirrors.ofExcept _).bind fun _ =>
    (mirrors_runAll b _).bind fun _ => .pure _

theorem plain_runOn (t : Table) (s : Session (Recorded σ)) (c : TableCommand) :
    (runOn b.recorded t s c).2.2.plain = (runOn b t s.plain c).2.2 := by
  cases c with
  | create mode =>
    simp only [runOn, create]
    rcases Schema.create t mode with e | ⟨statements, t'⟩
    · rfl
    · exact (congrArg Prod.snd (mirrors_runAll b statements s)).symm
  | plan operation =>
    simp only [runOn, mirrors_plan b operation t s]
    rcases (plan b.recorded operation t).run s with ⟨_ | ⟨_, _⟩, s'⟩ <;> rfl
  | apply operation =>
    simp only [runOn, apply, mirrors_plan b operation t s]
    rcases (plan b.recorded operation t).run s with ⟨_ | ⟨statements, t'⟩, s'⟩
    · rfl
    · exact (congrArg Prod.snd (mirrors_runAll b statements s')).symm
  | alter => exact (congrArg Prod.snd (mirrors_alter b t s)).symm
  | addIndex name columns unique =>
    exact (congrArg Prod.snd (mirrors_addIndex b t name columns unique s)).symm

theorem plain_move (s : Session (Recorded σ)) (m : Move) :
    (move b.recorded s m).plain = move b s.plain m := by
  cases m with
  | command c => exact (congrArg Prod.snd (mirrors_carryOut b c s)).symm
  | onTable t c => exact plain_runOn b t s c

theorem plain_play (s : Session (Recorded σ)) (moves : List Move) :
    (play b.recorded s moves).plain = play b s.plain moves := by
  induction moves generalizing s with
  | nil => rfl
  | cons m moves ih =>
    change (play b.recorded (move b.recorded s m) moves).plain = play b (move b s.plain m) moves
    rw [ih, plain_move]

end Session

end BoundSql
