import BoundSql.Proofs.Schema.Creation
import BoundSql.Proofs.Schema.Index
import BoundSql.Proofs.Session.Commit
import BoundSql.Proofs.Session.Dispatch
import BoundSql.Proofs.Session.Rollback

/-! # Failures in a transaction

A move that fails after it has sent a statement rolls back the open transaction, whoever has begun
it. A move can also fail before: nothing is staged, a query or an operation makes no statement, or
a table cannot be looked at. Then nothing is rolled back, and the transaction stays open.
-/

namespace BoundSql

variable {σ : Type}

def Looks (xs : List Exchange) : Prop :=
  ∀ x ∈ xs, ∃ table, x.call = .introspect table

theorem Looks.nil : Looks [] :=
  fun _ hx => absurd hx List.not_mem_nil

theorem Looks.not_closes {xs : List Exchange} (h : Looks xs) : ∀ x ∈ xs, ¬ x.Closes := by
  rintro x hx ⟨hc, -⟩
  obtain ⟨table, hcall⟩ := h x hx
  simp [hcall] at hc

theorem Schema.Operation.not_blank_statements {operation : Operation} {t t' : Table}
    {current : List PhysicalColumn} {statements : List Statement}
    (h : operation.statements t current = .ok (statements, t')) :
    ∀ st ∈ statements, ¬ Text.blank st.sql := by
  cases operation with
  | createTable mode =>
    have hcreated : create t mode = .ok (statements, t') := h
    obtain ⟨-, ⟨ds, hds⟩, -⟩ := creates_of_create hcreated
    have hcreation : ¬ Text.blank (creation t mode (tableClauses t ds)).sql := by
      delta Creation.sql
      simp only [String.append_assoc]
      exact Text.not_blank_append (by decide) _
    have hremoval : ¬ Text.blank (dropSql t.name) := by
      delta dropSql
      rw [String.append_assoc]
      exact Text.not_blank_append (by decide) _
    intro st hst
    rw [hds.statements, List.mem_append, List.mem_singleton] at hst
    rcases hst with hst | rfl
    · split at hst
      · rwa [List.mem_singleton.mp hst]
      · exact absurd hst List.not_mem_nil
    · exact hcreation
  | alterTable =>
    obtain ⟨st, hst, hsts⟩ := bind_eq_ok.mp h
    obtain ⟨rfl, -⟩ := Prod.mk.inj (Except.ok.inj hsts)
    obtain ⟨_, _, -, rfl⟩ := (settled_alter t current).of_eq_ok hst
    simp only [List.forall_mem_singleton, String.append_assoc]
    exact Text.not_blank_append (by decide) _
  | addIndex name columns unique =>
    obtain ⟨st, hst, hsts⟩ := bind_eq_ok.mp h
    obtain ⟨rfl, -⟩ := Prod.mk.inj (Except.ok.inj hsts)
    obtain rfl := (settled_addIndex unique).of_eq_ok hst
    delta indexStatement
    simp only [List.forall_mem_singleton, String.append_assoc]
    exact Text.not_blank_append (by decide) _

namespace Session

def outcome (b : Backend σ) (s : Session σ) : Move → Except Error Outcome
  | .command c => (run b s c).1
  | .onTable t c => (runOn b t s c).1

/-- Whether a move gets as far as sending a statement. -/
def Sends (b : Backend σ) (s : Session σ) : Move → Prop
  | .command .execute => ∃ sql ∈ s.query, ¬ Text.blank sql
  | .command _ => False
  | .onTable t c => c.runs ∧ ((plan b c.operation t).run s).1.isOk

section

variable {b : Backend σ} {operation : Schema.Operation} {t t' : Table} {s s' : Session σ}
  {statements : List Statement}

theorem apply_of_plan (h : (plan b operation t).run s = (.ok (statements, t'), s')) :
    apply b operation t s =
      (((runAfter b [] statements).run s').1, t', ((runAfter b [] statements).run s').2) := by
  rw [apply, h]
  rfl

theorem not_blank_of_plan (h : (plan b operation t).run s = (.ok (statements, t'), s')) :
    ∀ st ∈ statements, ¬ Text.blank st.sql := by
  rw [run_plan] at h
  rcases hi : (inspect b operation t).run s with ⟨e | current, s''⟩
  · rw [hi] at h
    cases h
  · rw [hi] at h
    exact Schema.Operation.not_blank_statements (congrArg Prod.fst h)

theorem keeps_plan {I : σ → Prop} (hb : b.RollsBack I) (operation : Schema.Operation) (t : Table) :
    Keeps I (plan b operation t) := by
  refine .bind ?_ fun _ => .ofExcept _
  rw [inspect]
  split
  · exact (keeps_perform hb _).bind fun _ => .pure _
  · exact .pure []

theorem leaves_apply {I : σ → Prop} (hb : b.RollsBack I) (hs : I s.server)
    (h : (plan b operation t).run s = (.ok (statements, t'), s'))
    (hfails : ¬ (apply b operation t s).1.isOk) :
    isOpen b (apply b operation t s).2.2 = false := by
  have hs' : I s'.server := by
    have hplan := keeps_plan hb operation t s hs
    rwa [h] at hplan
  rw [apply_of_plan h] at hfails ⊢
  exact (leaves_runAfter hb [] (not_blank_of_plan h) hs').2 hfails

theorem looks_of_inspection {xs : List Exchange} (h : xs.map (·.call) = inspection operation t) :
    Looks xs := by
  intro x hx
  have hcall : x.call ∈ inspection operation t := h ▸ List.mem_map_of_mem hx
  rw [inspection] at hcall
  split at hcall
  · exact ⟨t.name, List.mem_singleton.mp hcall⟩
  · exact absurd hcall List.not_mem_nil

theorem spares_apply {I : σ → Prop} (hb : b.Transactional I) (hr : b.RollsBack I)
    {s s' : Session (Recorded σ)} (hs : I s.server.state) (hopen : b.inTransaction s.server.state)
    (h : (plan b.recorded operation t).run s = (.ok (statements, t'), s')) :
    ∃ xs, s.server.Extends b I xs (apply b.recorded operation t s).2.2.server ∧
      Spares (apply b.recorded operation t s).1 xs := by
  obtain ⟨xs, r, hadv, hcalls, hsession, -⟩ := advances_plan b operation t s
  rw [h] at hsession
  obtain rfl : s' = { s with server := r } := hsession
  have hext := hadv.agrees hb hs
  have hlooks := (looks_of_inspection hcalls).not_closes
  have hopen' : b.inTransaction r.state := by
    rw [hext.agrees]
    exact hopen.symm ▸ openAfter_of_not_closes hlooks
  obtain ⟨ys, hext', hys⟩ :=
    spares_runAfter hb hr [] (not_blank_of_plan h) (s := { s with server := r }) hext.state hopen'
  rw [apply_of_plan h]
  exact ⟨xs ++ ys, hext.trans hext', .append hlooks hys⟩

end

section

variable {b : Backend σ} {s : Session σ} {t : Table} {c : TableCommand}

theorem runOn_of_not_sends (h : ¬ Sends b s (.onTable t c)) :
    (runOn b t s c).2.2 = ((plan b c.operation t).run s).2 := by
  cases hc : c.runs with
  | false =>
    cases c with
    | plan operation =>
      rw [runOn, TableCommand.operation]
      rcases (plan b operation t).run s with ⟨_ | ⟨_, _⟩, s'⟩ <;> rfl
    | _ => cases hc
  | true =>
    rw [congrArg Prod.snd (runOn_eq_apply b t s hc).1, apply]
    rcases hp : (plan b c.operation t).run s with ⟨e | ⟨statements, t'⟩, s'⟩
    · rfl
    · exact absurd ⟨hc, by rw [hp]; rfl⟩ h

theorem run_command_execute (b : Backend σ) (s : Session σ) :
    run b s .execute = (((execute b).run s).1.map .rows, ((execute b).run s).2) := by
  rw [run, carryOut, Attempt.run_map]
  rcases (execute b).run s with ⟨_ | rows, s'⟩ <;> rfl

theorem isOk_map {α β : Type} (f : α → β) (x : Except Error α) : (x.map f).isOk = x.isOk := by
  cases x <;> rfl

theorem apply_of_sends (h : Sends b s (.onTable t c)) :
    (∃ statements t' s', (plan b c.operation t).run s = (.ok (statements, t'), s')) ∧
      (outcome b s (.onTable t c)).isOk = (apply b c.operation t s).1.isOk ∧
      move b s (.onTable t c) = (apply b c.operation t s).2.2 := by
  obtain ⟨hafter, hresult⟩ := runOn_eq_apply b t s h.1
  refine ⟨?_, ?_, congrArg Prod.snd hafter⟩
  · rcases hp : (plan b c.operation t).run s with ⟨e' | ⟨statements, t'⟩, s'⟩
    · have hok := h.2
      rw [hp] at hok
      cases hok
    · exact ⟨statements, t', s', rfl⟩
  · rw [← isOk_map (fun _ => ()), ← isOk_map (fun _ => ()) (apply b c.operation t s).1, ← hresult]
    rfl

theorem closed_of_sends {I : σ → Prop} (hb : b.RollsBack I) (hs : I s.server) {m : Move}
    (h : Sends b s m) (hfails : ¬ (outcome b s m).isOk) : isOpen b (move b s m) = false := by
  cases m with
  | command c =>
    cases c with
    | execute =>
      obtain ⟨sql, hsql, hblank⟩ := h
      have hleaves := leaves_execute hb hs (staged?_eq_some hsql hblank)
      rw [outcome, run_command_execute, isOk_map] at hfails
      rw [move, run_command_execute]
      exact hleaves.2 hfails
    | _ => exact h.elim
  | onTable t c =>
    obtain ⟨⟨statements, t', s', hplan⟩, hresult, hmove⟩ := apply_of_sends h
    rw [hresult] at hfails
    rw [hmove]
    exact leaves_apply hb hs hplan hfails

theorem rolledBack_of_sends {I : σ → Prop} (hb : b.Transactional I) (hr : b.RollsBack I)
    {s : Session (Recorded σ)} (hs : I s.server.state) (hopen : b.inTransaction s.server.state)
    {m : Move} (h : Sends b.recorded s m) (hfails : ¬ (outcome b.recorded s m).isOk) :
    ∃ xs, s.server.Extends b I xs (move b.recorded s m).server ∧ RolledBack xs := by
  cases m with
  | command c =>
    cases c with
    | execute =>
      obtain ⟨sql, hsql, hblank⟩ := h
      obtain ⟨xs, hext, hxs⟩ := spares_execute hb hr hs hopen (staged?_eq_some hsql hblank)
      rw [outcome, run_command_execute, isOk_map] at hfails
      rw [move, run_command_execute]
      exact ⟨xs, hext, hxs.rolledBack hfails⟩
    | _ => exact h.elim
  | onTable t c =>
    obtain ⟨⟨statements, t', s', hplan⟩, hresult, hmove⟩ := apply_of_sends h
    obtain ⟨xs, hext, hxs⟩ := spares_apply hb hr hs hopen hplan
    rw [hresult] at hfails
    rw [hmove]
    exact ⟨xs, hext, hxs.rolledBack hfails⟩

theorem sends_recorded {m : Move} : Sends b.recorded s.recorded m ↔ Sends b s m := by
  cases m with
  | command c => cases c <;> rfl
  | onTable t c =>
    have hplan : (plan b c.operation t).run s = _ := mirrors_plan b c.operation t s.recorded
    rw [Sends, Sends, hplan]

theorem outcome_recorded (b : Backend σ) (s : Session σ) (m : Move) :
    outcome b.recorded s.recorded m = outcome b s m := by
  cases m with
  | command c => exact (congrArg Prod.fst (mirrors_carryOut b c s.recorded)).symm
  | onTable t c =>
    cases c with
    | create mode =>
      simp only [outcome, runOn, create]
      rcases Schema.create t mode with e | ⟨statements, t'⟩
      · rfl
      · exact congrArg (·.1.map Outcome.rows) (mirrors_runAll b statements s.recorded).symm
    | plan operation =>
      have hplan : (plan b operation t).run s = _ := mirrors_plan b operation t s.recorded
      simp only [outcome, runOn, hplan]
      rcases (plan b.recorded operation t).run s.recorded with ⟨_ | ⟨_, _⟩, s'⟩ <;> rfl
    | apply operation =>
      exact congrArg (·.1.map Outcome.rows) (mirrors_apply b operation t s.recorded).symm
    | alter => exact congrArg (·.1.map Outcome.rows) (mirrors_alter b t s.recorded).symm
    | addIndex name columns unique =>
      exact congrArg (·.1.map fun _ => Outcome.nothing)
        (mirrors_addIndex b t name columns unique s.recorded).symm

/-- A move that sends no statement and does not control transactions looks at tables at most. -/
theorem advances_of_not_sends {m : Move} (hm : ¬ m.Controls) (h : ¬ Sends b s m) :
    ∃ xs, s.recorded.server.Advances b xs (move b.recorded s.recorded m).server ∧ Looks xs := by
  cases m with
  | command c =>
    cases c with
    | build q delete =>
      have hserver : (move b.recorded s.recorded (.command (.build q delete))).server =
          s.recorded.server := by
        rw [move, run, carryOut, silent, build, Attempt.run_bind, Attempt.run_bind,
          Attempt.run_ofExcept]
        rcases q.build delete with e | st <;> rfl
      rw [hserver]
      exact ⟨[], .refl b _, .nil⟩
    | stage | setQuery | setBinds | clear => exact ⟨[], .refl b _, .nil⟩
    | begin | commit | rollback => exact absurd trivial hm
    | execute =>
      have hst : s.recorded.staged? = none := by
        refine staged?_eq_none fun sql hsql => Decidable.of_not_not fun hblank => ?_
        exact h ⟨sql, hsql, hblank⟩
      rw [move, run_command_execute, run_execute_of_none hst]
      exact ⟨[], .refl b _, .nil⟩
    | describe table =>
      have hserver : (move b.recorded s.recorded (.command (.describe table))).server =
          (b.recorded.call (.introspect table) s.recorded.server).2 := by
        rw [move, run, carryOut, describe, Attempt.run_map, Attempt.run_bind, run_perform]
        rcases b.recorded.call (.introspect table) s.recorded.server with ⟨_ | _, _⟩ <;> rfl
      rw [hserver]
      exact ⟨_, .call b _ _, List.forall_mem_singleton.mpr ⟨table, rfl⟩⟩
  | onTable t c =>
    obtain ⟨xs, r, hadv, hcalls, hsession, -⟩ := advances_plan b c.operation t s.recorded
    rw [move, runOn_of_not_sends (sends_recorded.not.mpr h), hsession]
    exact ⟨xs, hadv, looks_of_inspection hcalls⟩

/-- A move that fails in a transaction leaves none open if it has sent a statement: the transaction
is rolled back. If it has sent none, no rollback is made and the transaction stays open. -/
theorem move_fails_in_transaction {I : σ → Prop} (hr : b.RollsBack I) (hs : I s.server)
    (hopen : isOpen b s) {m : Move} (hm : ¬ m.Controls) (hfails : ¬ (outcome b s m).isOk) :
    let after := move b.recorded s.recorded m
    after.plain = move b s m ∧
      (Sends b s m → isOpen b after.plain = false ∧
        (b.Transactional I → RolledBack after.server.exchanges)) ∧
      (¬ Sends b s m → Looks after.server.exchanges ∧
        (b.Transactional I → isOpen b after.plain)) := by
  intro after
  have hplain : after.plain = move b s m := plain_move b s.recorded m
  refine ⟨hplain, fun hsends => ⟨?_, fun hb => ?_⟩, fun hsends => ?_⟩
  · rw [hplain]
    exact closed_of_sends hr hs hsends hfails
  · rw [← outcome_recorded b s m] at hfails
    obtain ⟨xs, hext, hxs⟩ := rolledBack_of_sends hb hr (s := s.recorded) hs hopen
      (sends_recorded.mpr hsends) hfails
    have hexchanges : after.server.exchanges = xs := hext.exchanges
    rwa [hexchanges]
  · obtain ⟨xs, hadv, hlooks⟩ := advances_of_not_sends hm hsends
    have hexchanges : after.server.exchanges = xs := hadv.exchanges
    rw [hexchanges]
    refine ⟨hlooks, fun hb => ?_⟩
    have hledger : b.inTransaction after.server.state = openAfter (isOpen b s) xs :=
      (hadv.agrees hb hs).agrees
    rw [hopen, openAfter_of_not_closes hlooks.not_closes] at hledger
    exact hledger

end

/-- The second statement of a creation fails, in a transaction of the user's own. -/
theorem move_fails_in_transaction_of_creation :
    let s : Session Scripted := { server := { isOpen := true, failures := [(.execute, 1)] } }
    let t : Table := { name := "users", columns := [{ name := "id", type := some .date }] }
    let m : Move := .onTable t (.create .dropIfExists)
    let after := move Scripted.backend.recorded s.recorded m
    s.server.RollsBack ∧ ¬ (outcome Scripted.backend s m).isOk ∧ Sends Scripted.backend s m ∧
      isOpen Scripted.backend after.plain = false ∧
      after.server.exchanges.map (·.call) = [.prepare "DROP TABLE IF EXISTS users;", .execute,
        .prepare "CREATE TABLE users (id DATE) ENGINE=InnoDB DEFAULT CHARSET=utf8;", .execute,
        .rollback] ∧
      RolledBack after.server.exchanges := by
  intro s t m after
  have hs : s.server.RollsBack := ⟨rfl, by simp [s]⟩
  have hfails : ¬ (outcome Scripted.backend s m).isOk := by decide +kernel
  have hsends : Sends Scripted.backend s m := ⟨rfl, by decide +kernel⟩
  have h := move_fails_in_transaction Scripted.backend_rollsBack hs rfl id hfails
  obtain ⟨hclosed, hrolledBack⟩ := h.2.1 hsends
  exact ⟨hs, hfails, hsends, hclosed, by decide +kernel,
    hrolledBack Scripted.transactional_rollsBack⟩

/-- Failures on a server where no call fails: nothing is staged, a query has an unknown operator,
and a table without an engine, which the server does not have, can be neither created nor
changed. -/
theorem early_failures_leave_open :
    let s : Session Scripted := { server := { isOpen := true } }
    let q : Query :=
      { table := "users", select := ["id"], filters := [⟨"id", [⟨"between", .scalar .null⟩]⟩] }
    let t : Table := { name := "users", engine := "" }
    let moves : List Move := [.command .execute, .command (.build q false)] ++
      [.create .plain, .plan .alterTable, .apply .alterTable, .alter, .addIndex "i" "id" true].map
        (.onTable t)
    s.server.RollsBack ∧ ∀ m ∈ moves, ¬ (outcome Scripted.backend s m).isOk ∧
      isOpen Scripted.backend (move Scripted.backend s m) := by
  intro s q t moves
  refine ⟨⟨rfl, by simp [s]⟩, ?_⟩
  decide +kernel

end Session

end BoundSql
