import BoundSql.Proofs.Schema.Creation
import BoundSql.Proofs.Session.ShortForm

/-! # Creating a table in a session

A creation is settled by the table alone. Where it is refused, neither the table nor the session
changes. Where it is not, the table has its key recorded, whether the statements are only planned,
run or fail to run, and from then on it asks for the same statements: creating it after a plan, or
once more after a failure, does what creating it at first would do.
-/

namespace BoundSql.Session

open Schema (Creatable Creates WrittenBare)

section

variable {σ : Type} (b : Backend σ)

/-- What a command does with the statements of its operation: a plan gives them back, any other
command runs them. -/
def carryThrough (c : TableCommand) (statements : List Statement) : Attempt (Session σ) Outcome :=
  if c.runs then .rows <$> runAll b statements else pure (.statements statements)

theorem runOn_of_createTable (t : Table) (s : Session σ) {c : TableCommand}
    {mode : Schema.CreateMode} (hc : c.operation = .createTable mode) :
    runOn b t s c = match Schema.create t mode with
      | .error e => (.error e, t, s)
      | .ok (statements, u) =>
        let run := (carryThrough b c statements).run s
        (run.1, u, run.2) := by
  have hplan := run_plan_createTable b t s mode
  have hrows (statements : List Statement) :
      (Outcome.rows <$> runAll b statements : Attempt (Session σ) Outcome).run s =
        (((runAll b statements).run s).1.map .rows, ((runAll b statements).run s).2) := by
    rw [Attempt.run_map]
    rcases (runAll b statements).run s with ⟨e | rows, s'⟩ <;> rfl
  have happly : runOn b t s (.apply (.createTable mode)) = match Schema.create t mode with
      | .error e => (.error e, t, s)
      | .ok (statements, u) =>
        let run := (Outcome.rows <$> runAll b statements : Attempt (Session σ) Outcome).run s
        (run.1, u, run.2) := by
    simp only [runOn, apply, hplan, hrows]
    rcases Schema.create t mode with e | ⟨statements, u⟩ <;> rfl
  cases c with
  | create =>
    obtain rfl := Schema.Operation.createTable.inj hc
    simp only [runOn, create_eq_apply]
    exact happly
  | plan operation =>
    obtain rfl : operation = .createTable mode := hc
    simp only [runOn, hplan]
    rcases Schema.create t mode with e | ⟨statements, u⟩ <;> rfl
  | apply operation =>
    obtain rfl : operation = .createTable mode := hc
    exact happly
  | alter | addIndex => cases hc

end

/-- A creation succeeds exactly if all its conditions are met, and is refused for its first problem
otherwise. A refused creation leaves the table and the session as they were; any other leaves all of
the table but its key, and writes no length behind a type that has none. -/
theorem create_accepts (t : Table) (mode : Schema.CreateMode) :
    ((∃ sts u, Schema.create t mode = .ok (sts, u)) ↔ Creatable t) ∧
    (∀ e, Schema.create t mode = .error e ↔ (Schema.createProblems t).head? = some e) ∧
    (∀ {sts u}, Schema.create t mode = .ok (sts, u) →
      u = { t with primaryKey := Schema.chosenKey t } ∧
      ∃ ds, Creates t mode sts ds ∧ List.Forall₂ WrittenBare t.columns ds) ∧
    ∀ {σ : Type} (b : Backend σ) (s : Session σ) (c : TableCommand),
      c.operation = .createTable mode →
      (∀ {e}, Schema.create t mode = .error e → runOn b t s c = (.error e, t, s)) ∧
      ∀ {sts u}, Schema.create t mode = .ok (sts, u) → (runOn b t s c).2.1 = u := by
  have hsettled := Schema.settled_create t mode
  refine ⟨?_, hsettled.eq_error_iff, ?_, ?_⟩
  · rw [← Schema.createProblems_eq_nil, ← hsettled.exists_eq_ok_iff, Prod.exists]
  · intro sts u h
    obtain ⟨-, ⟨ds, hcreates⟩, hu⟩ := Schema.creates_of_create h
    exact ⟨hu, ds, hcreates, hcreates.columns.each Schema.writtenBare_of_define⟩
  · intro σ b s c hc
    rw [runOn_of_createTable b t s hc]
    constructor
    · intro e h
      rw [h]
    · intro sts u h
      rw [h]

theorem create_accepts_of_drafts :
    let id : Column :=
      { name := "id", type := some .int, length := some (.size 11), autoIncrement := .on }
    let body : Column :=
      { name := "body", type := some .text, length := some (.size 255), comment := .set "(long)" }
    let title : Column := { name := "title", type := some .varchar }
    let drafts : Table := { name := "drafts", columns := [id, body] }
    let keyed : Table := { drafts with primaryKey := some "id" }
    let sts : List Statement := [⟨"CREATE TABLE IF NOT EXISTS drafts (" ++
      "id INT(11) AUTO_INCREMENT, body TEXT COMMENT \"(long)\", PRIMARY KEY(id)) " ++
      "ENGINE=InnoDB DEFAULT CHARSET=utf8;", []⟩]
    let refused : Table := {
      name := "drafts"
      columns := [id, title]
      primaryKey := some "uuid"
      foreignKeys := [⟨"author", "users", "id", none, none⟩] }
    let e : Error := .unknownColumn "drafts" "uuid"
    let s : Session Scripted := { server := {} }
    Schema.create drafts .ifNotExists = .ok (sts, keyed) ∧ Creatable drafts ∧
      (∃ ds, Creates drafts .ifNotExists sts ds ∧ List.Forall₂ WrittenBare drafts.columns ds) ∧
      Schema.createProblems refused =
        [e, .unknownColumn "drafts" "author", .missingLength "title" "VARCHAR"] ∧
      Schema.create refused .plain = .error e ∧
      runOn Scripted.backend refused s (.create .plain) = (.error e, refused, s) := by
  intro id body title drafts keyed sts refused e s
  have hcreate : Schema.create drafts .ifNotExists = .ok (sts, keyed) := by
    decide +kernel
  have hproblems : Schema.createProblems refused =
      [e, .unknownColumn "drafts" "author", .missingLength "title" "VARCHAR"] := by
    decide +kernel
  obtain ⟨haccepts, -, hcreates, -⟩ := create_accepts drafts .ifNotExists
  obtain ⟨-, herror, -, hrun⟩ := create_accepts refused .plain
  have hrefused : Schema.create refused .plain = .error e := by
    rw [herror, hproblems]
    rfl
  exact ⟨hcreate, haccepts.mp ⟨_, _, hcreate⟩, (hcreates hcreate).2, hproblems, hrefused,
    (hrun Scripted.backend s (.create .plain) rfl).1 hrefused⟩

/-- A table whose columns have different names asks for the same statements again once its key is
recorded, and every command that creates it does with the table as it is left what it does with the
table as it was. -/
theorem create_repeats {t u : Table} {mode : Schema.CreateMode} {sts : List Statement}
    (ht : t.NamesDiffer) (h : Schema.create t mode = .ok (sts, u)) :
    Schema.create u mode = .ok (sts, u) ∧
    ∀ {σ : Type} (b : Backend σ) (s : Session σ) (c : TableCommand),
      c.operation = .createTable mode →
      (runOn b t s c).2.1 = u ∧ runOn b u s c = runOn b t s c := by
  have hagain := Schema.create_keyed ht h
  refine ⟨hagain, ?_⟩
  intro σ b s c hc
  rw [runOn_of_createTable b t s hc, runOn_of_createTable b u s hc, h, hagain]
  exact ⟨rfl, rfl⟩

/-- The second statement fails to execute; trying again starts from the table with its key. -/
theorem create_repeats_of_journal :
    let u : Table := { Schema.journal with primaryKey := some "id" }
    let s : Session Scripted := { server := { failures := [(.execute, 1)] } }
    let first := runOn Scripted.backend Schema.journal s (.create .dropIfExists)
    Schema.journal.NamesDiffer ∧
      Schema.create Schema.journal .dropIfExists = .ok (Schema.journalStatements, u) ∧
      Schema.create u .dropIfExists = .ok (Schema.journalStatements, u) ∧
      first.2.1 = u ∧
      runOn Scripted.backend u first.2.2 (.create .dropIfExists) =
        runOn Scripted.backend Schema.journal first.2.2 (.create .dropIfExists) := by
  intro u s first
  have hnames : Schema.journal.NamesDiffer := by decide
  have hcreate : Schema.create Schema.journal .dropIfExists =
      .ok (Schema.journalStatements, u) := by
    decide +kernel
  obtain ⟨hagain, hrun⟩ := create_repeats hnames hcreate
  have hkey := (hrun Scripted.backend s (.create .dropIfExists) rfl).1
  have hretry := (hrun Scripted.backend first.2.2 (.create .dropIfExists) rfl).2
  subst first
  exact ⟨hnames, hcreate, hagain, hkey, hretry⟩

end BoundSql.Session
