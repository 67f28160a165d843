import BoundSql.Proofs.Session.Execution
import BoundSql.Proofs.Session.ShortForm
import BoundSql.Proofs.Session.Transaction

/-! # Dispatch of schema operations

A schema operation is planned as a whole before a statement of it is sent: where the plan fails, the
server has been asked for the columns of the table at most. The statements of a plan are sent in
order, up to the first that fails. The commands for single operations are short forms of applying
them.
-/

namespace BoundSql

def Call.prepared? : Call → Option String
  | prepare sql => some sql
  | _ => none

def prepared (xs : List Exchange) : List String :=
  xs.filterMap (·.call.prepared?)

@[simp] theorem prepared_append (xs ys : List Exchange) :
    prepared (xs ++ ys) = prepared xs ++ prepared ys :=
  List.filterMap_append

/-- Exchanges in which a failure is followed by nothing, or by a rollback alone. -/
def StopsAtFailure (xs : List Exchange) : Prop :=
  ∀ before x after, xs = before ++ x :: after → ¬ x.Succeeds →
    after = [] ∨ ∃ answer, after = [⟨.rollback, answer⟩]

namespace StopsAtFailure

variable {xs ys : List Exchange}

theorem of_forall (h : ∀ x ∈ xs, x.Succeeds) : StopsAtFailure xs := by
  rintro before x after rfl hx
  exact absurd (h x (by simp)) hx

theorem append (h : ∀ x ∈ xs, x.Succeeds) (k : StopsAtFailure ys) : StopsAtFailure (xs ++ ys) := by
  intro before x after hsplit hx
  rcases List.append_eq_append_iff.mp hsplit with ⟨rest, -, hys⟩ | ⟨rest, hxs, hafter⟩
  · exact k rest x after hys hx
  · cases rest with
    | nil => exact k [] x after hafter.symm hx
    | cons y rest =>
      obtain ⟨rfl, -⟩ := List.cons.inj hafter
      exact absurd (h x (by simp [hxs])) hx

theorem failure (x : Exchange) : StopsAtFailure [x] := by
  intro before y after hsplit _
  rcases List.append_eq_singleton_iff.mp hsplit.symm with ⟨-, h⟩ | ⟨-, h⟩
  · exact .inl (List.cons.inj h).2
  · cases h

theorem undone (x : Exchange) (answer : Except String Reply) :
    StopsAtFailure [x, ⟨.rollback, answer⟩] := by
  intro before y after hsplit hy
  cases before with
  | nil => exact .inr ⟨answer, (List.cons.inj hsplit).2.symm⟩
  | cons z before => exact failure _ before y after (List.cons.inj hsplit).2 hy

end StopsAtFailure

namespace Course

variable {cs : List Call} {xs : List Exchange} {e : Option Error}

theorem calls_isPrefix (h : Course cs xs e) : xs.map (·.call) <+: cs := by
  induction h with
  | nil => exact List.prefix_refl []
  | cons c reply _ ih => exact (List.cons_prefix_cons).mpr ⟨rfl, ih⟩
  | cut c cs reason => exact ⟨cs, rfl⟩

theorem calls_eq (h : Course cs xs none) : xs.map (·.call) = cs := by
  generalize he : (none : Option Error) = e at h
  induction h with
  | nil => rfl
  | cons c reply _ ih => exact congrArg (c :: ·) (ih he)
  | cut => cases he

end Course

/-- Exchanges that send statements with the given texts, in order and up to the first that fails,
and come to a result. -/
structure Dispatched {α : Type} (texts : List String) (xs : List Exchange)
    (result : Except Error α) : Prop where
  initial : prepared xs <+: texts
  whole : result.isOk → prepared xs = texts ∧ ∀ x ∈ xs, x.Succeeds
  stops : StopsAtFailure xs

namespace Session

variable {σ : Type} (b : Backend σ)

theorem prepared?_script (st : Statement) (wasOpen : Bool) :
    (script st wasOpen).filterMap Call.prepared? = [st.sql] := by
  have hbinds : (st.binds.mapIdx fun i v => Call.bind (i + 1) v).filterMap Call.prepared? = [] := by
    rw [List.filterMap_eq_nil_iff]
    intro c hc
    obtain ⟨i, hi, rfl⟩ := List.mem_mapIdx.mp hc
    rfl
  cases wasOpen <;> by_cases hd : Declarative st.sql <;>
    simp [script, hbinds, hd, List.filterMap_cons, Call.prepared?]

theorem prepared_eq (xs : List Exchange) :
    prepared xs = (xs.map (·.call)).filterMap Call.prepared? := by
  rw [List.filterMap_map]
  rfl

section

variable {st : Statement} {wasOpen : Bool} {xs : List Exchange}

theorem dispatched_of_course (h : Course (script st wasOpen) xs none) (rows : List Row) :
    Dispatched [st.sql] xs (.ok rows) := by
  have hp : prepared xs = [st.sql] := by rw [prepared_eq, h.calls_eq, prepared?_script]
  exact ⟨hp ▸ List.prefix_refl _, fun _ => ⟨hp, h.succeeds⟩, .of_forall h.succeeds⟩

theorem dispatched_of_failure {e : Error} (h : Course (script st wasOpen) xs (some e))
    {ys : List Exchange} (hys : ys = [] ∨ ∃ answer, ys = [⟨.rollback, answer⟩]) :
    Dispatched [st.sql] (xs ++ ys) (.error e : Except Error (List Row)) := by
  have hp : prepared xs <+: [st.sql] := by
    rw [prepared_eq, ← prepared?_script st wasOpen]
    exact h.calls_isPrefix.filterMap _
  obtain ⟨zs, z, rfl, hzs⟩ := h.eq_concat
  refine ⟨?_, fun hok => (by cases hok), ?_⟩
  · rcases hys with rfl | ⟨answer, rfl⟩
    · rwa [List.append_nil]
    · rwa [prepared_append, show prepared [⟨.rollback, answer⟩] = [] from rfl, List.append_nil]
  · rw [List.append_assoc]
    refine .append hzs ?_
    rcases hys with rfl | ⟨answer, rfl⟩
    · exact .failure z
    · exact .undone z answer

end

theorem dispatched_execute (st : Statement) (s : Session (Recorded σ)) :
    ∃ xs, s.server.Advances b xs ((execute b.recorded).run (stage st s)).2.server ∧
      Dispatched [st.sql] xs ((execute b.recorded).run (stage st s)).1 := by
  cases hst : (stage st s).staged? with
  | none =>
    rw [run_execute_of_none hst]
    refine ⟨[], .refl b s.server, List.nil_prefix, fun hok => (by cases hok), .of_forall (by simp)⟩
  | some st' =>
    have hsql : st'.sql = st.sql := (Option.some.inj (eq_of_staged? hst).1).symm
    obtain ⟨xs, e, r, ys, r', hcourse, hadv, hadv', hresult, hserver, hys⟩ :=
      run_execute_of_some (b := b) hst
    refine ⟨xs ++ ys, hserver ▸ hadv.trans hadv', ?_⟩
    rw [hresult, ← hsql]
    cases e with
    | none =>
      obtain rfl : ys = [] := by simpa using hys
      rw [List.append_nil]
      exact dispatched_of_course hcourse _
    | some e =>
      refine dispatched_of_failure hcourse ?_
      split at hys
      · exact .inr hys
      · exact .inl hys

theorem dispatched_runAfter (rows : List Row) (statements : List Statement)
    (s : Session (Recorded σ)) :
    ∃ xs, s.server.Advances b xs ((runAfter b.recorded rows statements).run s).2.server ∧
      Dispatched (statements.map (·.sql)) xs ((runAfter b.recorded rows statements).run s).1 := by
  induction statements generalizing rows s with
  | nil =>
    refine ⟨[], .refl b s.server, List.prefix_refl [], fun _ => ⟨rfl, ?_⟩, .of_forall ?_⟩ <;> simp
  | cons st rest ih =>
    obtain ⟨xs, hadv, hxs⟩ := dispatched_execute b st s
    rw [run_runAfter_cons]
    rcases hr : (execute b.recorded).run (stage st s) with ⟨e | rows', s'⟩
    · rw [hr] at hadv hxs
      refine ⟨xs, hadv, hxs.initial.trans ?_, fun hok => (by cases hok), hxs.stops⟩
      exact List.prefix_append [st.sql] (rest.map (·.sql))
    · rw [hr] at hadv hxs
      obtain ⟨hwhole, hok⟩ := hxs.whole rfl
      obtain ⟨ys, hadv', hys⟩ := ih rows' s'
      refine ⟨xs ++ ys, hadv.trans hadv', ?_, fun hr => ?_, .append hok hys.stops⟩
      · rw [prepared_append, hwhole]
        exact (List.prefix_append_right_inj _).mpr hys.initial
      · obtain ⟨hwhole', hok'⟩ := hys.whole hr
        rw [prepared_append, hwhole, hwhole']
        exact ⟨rfl, List.forall_mem_append.mpr ⟨hok, hok'⟩⟩

def inspection (operation : Schema.Operation) (t : Table) : List Call :=
  if operation.needsIntrospection then [.introspect t.name] else []

theorem prepared?_inspection (operation : Schema.Operation) (t : Table) :
    (inspection operation t).filterMap Call.prepared? = [] := by
  rw [inspection]
  split <;> rfl

theorem advances_plan (operation : Schema.Operation) (t : Table) (s : Session (Recorded σ)) :
    ∃ xs r, s.server.Advances b xs r ∧ xs.map (·.call) = inspection operation t ∧
      ((plan b.recorded operation t).run s).2 = { s with server := r } ∧
      (((plan b.recorded operation t).run s).1.isOk → ∀ x ∈ xs, x.Succeeds) := by
  rw [plan, Attempt.run_bind, inspect, inspection]
  split
  · have hadv := Recorded.Advances.call b s.server (.introspect t.name)
    refine ⟨_, _, hadv, rfl, ?_⟩
    rw [describe, Attempt.run_bind, run_perform]
    rcases b.recorded.call (.introspect t.name) s.server with ⟨reason | reply, r⟩
    · exact ⟨rfl, fun hok => (by cases hok)⟩
    · simp only [Except.mapError, Attempt.run_pure, Attempt.run_ofExcept]
      exact ⟨trivial, fun _ => List.forall_mem_singleton.mpr rfl⟩
  · simp only [Attempt.run_pure, Attempt.run_ofExcept]
    exact ⟨[], s.server, .refl b s.server, rfl, rfl, fun _ => by simp⟩

theorem dispatched_apply {operation : Schema.Operation} {t t' : Table} {s : Session (Recorded σ)}
    {statements : List Statement}
    (hplan : ((plan b.recorded operation t).run s).1 = .ok (statements, t')) :
    (apply b.recorded operation t s).2.1 = t' ∧
      ∃ xs, s.server.Advances b xs (apply b.recorded operation t s).2.2.server ∧
        Dispatched (statements.map (·.sql)) xs (apply b.recorded operation t s).1 := by
  obtain ⟨xs, r, hadv, hcalls, hsession, hok⟩ := advances_plan b operation t s
  rcases hp : (plan b.recorded operation t).run s with ⟨result, s'⟩
  rw [hp] at hplan hsession hok
  obtain rfl : result = .ok (statements, t') := hplan
  obtain rfl : s' = { s with server := r } := hsession
  obtain ⟨ys, hadv', hys⟩ := dispatched_runAfter b [] statements { s with server := r }
  rw [← runAll_eq] at hadv' hys
  rw [apply, hp]
  refine ⟨rfl, xs ++ ys, hadv.trans hadv', ?_, fun hr => ?_, .append (hok rfl) hys.stops⟩
  · rw [prepared_append, prepared_eq xs, hcalls, prepared?_inspection]
    exact hys.initial
  · obtain ⟨hwhole, hys⟩ := hys.whole hr
    rw [prepared_append, prepared_eq xs, hcalls, prepared?_inspection]
    exact ⟨hwhole, List.forall_mem_append.mpr ⟨hok rfl, hys⟩⟩

theorem mirrors_apply (operation : Schema.Operation) (t : Table) (s : Session (Recorded σ)) :
    apply b operation t s.plain =
      let run := apply b.recorded operation t s
      (run.1, run.2.1, run.2.2.plain) := by
  simp only [apply, mirrors_plan b operation t s]
  rcases (plan b.recorded operation t).run s with ⟨_ | ⟨statements, t'⟩, s'⟩
  · rfl
  · simp only [mirrors_runAll b statements s']

/-- An operation whose plan fails asks for the columns of its table at most, and changes nothing but
the server. Any other sends the statements of its plan, in order and up to the first that fails. The
commands that run an operation in one go agree with applying it. -/
theorem apply_dispatched (operation : Schema.Operation) (t : Table) (s : Session σ) :
    let run := apply b.recorded operation t s.recorded
    apply b operation t s = (run.1, run.2.1, run.2.2.plain) ∧
      (match ((plan b operation t).run s).1 with
        | .error e => run.1 = .error e ∧ run.2.1 = t ∧ run.2.2.query = s.query ∧
            run.2.2.binds = s.binds ∧
            run.2.2.server.exchanges.map (·.call) = inspection operation t
        | .ok (statements, t') => run.2.1 = t' ∧
            Dispatched (statements.map (·.sql)) run.2.2.server.exchanges run.1) ∧
      ∀ c : TableCommand, c.runs → c.operation = operation →
        let short := runOn b.recorded t s.recorded c
        short.2 = run.2 ∧ short.1.map (fun _ => ()) = run.1.map fun _ => () := by
  intro run
  refine ⟨mirrors_apply b operation t s.recorded, ?_, ?_⟩
  · have hplan :
        ((plan b operation t).run s).1 = ((plan b.recorded operation t).run s.recorded).1 :=
      congrArg Prod.fst (mirrors_plan b operation t s.recorded)
    rw [hplan]
    cases hp : ((plan b.recorded operation t).run s.recorded).1 with
    | error e =>
      obtain ⟨xs, r, hadv, hcalls, hsession, -⟩ := advances_plan b operation t s.recorded
      have hrun : run = (.error e, t, { s.recorded with server := r }) := by
        unfold run
        rw [apply]
        rcases hr : (plan b.recorded operation t).run s.recorded with ⟨result, s'⟩
        rw [hr] at hp hsession
        obtain rfl : result = .error e := hp
        obtain rfl : s' = { s.recorded with server := r } := hsession
        rfl
      rw [hrun]
      exact ⟨rfl, rfl, rfl, rfl, by rw [← hcalls, hadv.exchanges]; rfl⟩
    | ok planned =>
      obtain ⟨ht, xs, hadv, hxs⟩ := dispatched_apply b hp
      exact ⟨ht, hadv.exchanges ▸ hxs⟩
  · rintro c hc rfl
    exact runOn_eq_apply b.recorded t s.recorded hc

/-- The second of two statements fails to execute, and the rollback fails on top. -/
theorem apply_dispatched_of_failing_creation :
    let s : Session Scripted := { server := { failures := [(.execute, 1), (.rollback, 0)] } }
    let t : Table := { name := "users", columns := [{ name := "id", type := some .date }] }
    let statements : List Statement := [⟨"DROP TABLE IF EXISTS users;", []⟩,
      ⟨"CREATE TABLE users (id DATE) ENGINE=InnoDB DEFAULT CHARSET=utf8;", []⟩]
    let run := apply Scripted.backend.recorded (.createTable .dropIfExists) t s.recorded
    ((plan Scripted.backend (.createTable .dropIfExists) t).run s).1 = .ok (statements, t) ∧
      run.2.2.server.exchanges.map (·.call) =
        [.begin, .prepare "DROP TABLE IF EXISTS users;", .execute, .commit, .begin,
          .prepare "CREATE TABLE users (id DATE) ENGINE=InnoDB DEFAULT CHARSET=utf8;", .execute,
          .rollback] ∧
      run.1 = .error (.backend .execute "injected failure at execute") ∧
      Dispatched (statements.map (·.sql)) run.2.2.server.exchanges run.1 ∧
      (runOn Scripted.backend.recorded t s.recorded (.create .dropIfExists)).2 = run.2 := by
  intro s t statements run
  have hplan : ((plan Scripted.backend (.createTable .dropIfExists) t).run s).1 =
      .ok (statements, t) := by
    decide +kernel
  obtain ⟨-, hdispatched, hshort⟩ :=
    apply_dispatched Scripted.backend (.createTable .dropIfExists) t s
  rw [hplan] at hdispatched
  exact ⟨hplan, by decide +kernel, by decide +kernel, hdispatched.2,
    (hshort (.create .dropIfExists) rfl rfl).1⟩

end Session

end BoundSql
