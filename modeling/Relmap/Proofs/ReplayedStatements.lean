import Mathlib.Data.List.Range
import Relmap.Schema.Replay
import Relmap.Proofs.SessionCalls

/-! What comes of the statements of a schema when they are replayed. Each of them reaches the driver once, in order, whatever
became of those before it, and the report accounts for all of them. -/

namespace Relmap.Schema

variable {σ : Type}

abbrev Outcomes := List (String × Except DriverError UInt64)

/-- Statements without parameters that a driver is asked for one after the other, with its answers. -/
inductive Answered (driver : Driver σ) : σ → Outcomes → σ → Prop where
  | done (state : σ) : Answered driver state [] state
  | next {before between after : σ} {sql : String} {answer : Except DriverError UInt64} {others : Outcomes}
    (own : (driver.statement sql 0 []).run before = (answer, between)) (rest : Answered driver between others after) :
    Answered driver before ((sql, answer) :: others) after

/-- A report that leaves no statement out: it counts those that succeeded and lists the others in order, each with its place, its
text and the text of its own error. -/
structure Accounts (outcomes : Outcomes) (report : Report) : Prop where
  whole : report.applied + report.skipped.length = outcomes.length
  increasing : report.skipped.Pairwise fun first later => first.index < later.index
  failed : ∀ skipped, skipped ∈ report.skipped ↔
    ∃ error, outcomes[skipped.index]? = some (skipped.sql, .error error) ∧ skipped.error = error.message

def refusal? (placed : (String × Except DriverError UInt64) × Nat) : Option Skipped :=
  match placed.1.2 with
  | .ok _ => none
  | .error error => some ⟨placed.2, placed.1.1, error.message⟩

theorem skipped_refusals (outcomes : Outcomes) : (Report.of outcomes).skipped = outcomes.zipIdx.filterMap refusal? := rfl

theorem refusal?_some {placed : (String × Except DriverError UInt64) × Nat} {skipped : Skipped} : refusal? placed = some skipped ↔
    ∃ error, placed = ((skipped.sql, .error error), skipped.index) ∧ skipped.error = error.message := by
  obtain ⟨⟨sql, answer⟩, index⟩ := placed
  obtain ⟨index', sql', message⟩ := skipped
  cases answer with
  | ok count => simp [refusal?]
  | error error =>
    simp only [refusal?, Option.some.injEq, Skipped.mk.injEq, Prod.mk.injEq, Except.error.injEq]
    constructor
    · rintro ⟨rfl, rfl, rfl⟩
      exact ⟨error, ⟨⟨rfl, rfl⟩, rfl⟩, rfl⟩
    · rintro ⟨_, ⟨⟨rfl, rfl⟩, rfl⟩, rfl⟩
      exact ⟨rfl, rfl, rfl⟩

private theorem refusal?_isSome (placed : (String × Except DriverError UInt64) × Nat) :
    (refusal? placed).isSome = !placed.1.2.isOk := by
  obtain ⟨⟨sql, answer⟩, index⟩ := placed
  cases answer <;> rfl

private theorem report_accounts (outcomes : Outcomes) : Accounts outcomes (Report.of outcomes) := by
  constructor
  case whole =>
    have failed : (outcomes.zipIdx.filterMap refusal?).length = outcomes.countP fun outcome => !outcome.2.isOk := by
      rw [List.length_filterMap_eq_countP]
      simp only [refusal?_isSome]
      conv_rhs => rw [← List.zipIdx_map_fst 0 outcomes, List.countP_map]
      rfl
    rw [skipped_refusals, failed, List.length_eq_countP_add_countP fun outcome => outcome.2.isOk]
    simp [Report.of]
  case increasing =>
    have places : outcomes.zipIdx.Pairwise fun first later => first.2 < later.2 := by
      rw [← List.pairwise_map, List.zipIdx_map_snd]
      exact List.pairwise_lt_range'
    rw [skipped_refusals, List.pairwise_filterMap]
    refine places.imp fun less first own later next => ?_
    obtain ⟨_, rfl, -⟩ := refusal?_some.mp own
    obtain ⟨_, rfl, -⟩ := refusal?_some.mp next
    exact less
  case failed =>
    intro skipped
    rw [skipped_refusals, List.mem_filterMap]
    simp only [refusal?_some, List.mem_zipIdx_iff_getElem?]
    constructor
    · rintro ⟨_, place, error, rfl, message⟩
      exact ⟨error, place, message⟩
    · intro ⟨error, place, message⟩
      exact ⟨_, place, error, rfl, message⟩

def attempts (driver : Driver σ) (statements : List String) : StateM σ Outcomes :=
  statements.mapM fun sql => return (sql, ← driver.statement sql 0 [])

theorem attempts_cons (driver : Driver σ) (sql : String) (others : List String) (before : σ) :
    (attempts driver (sql :: others)).run before =
      let asked := (driver.statement sql 0 []).run before
      let rest := (attempts driver others).run asked.2
      ((sql, asked.1) :: rest.1, rest.2) := by
  unfold attempts
  rw [List.mapM_cons]
  rfl

private theorem attempts_texts (driver : Driver σ) (statements : List String) (before : σ) :
    ((attempts driver statements).run before).1.map (·.1) = statements := by
  induction statements generalizing before with
  | nil => rfl
  | cons sql others ih =>
    rw [attempts_cons]
    exact congrArg (sql :: ·) (ih _)

/-- An answer, whether it is an error or not, is followed by the next statement. -/
theorem attempts_answered (driver : Driver σ) (statements : List String) (before : σ) :
    Answered driver before ((attempts driver statements).run before).1 ((attempts driver statements).run before).2 := by
  induction statements generalizing before with
  | nil => exact .done before
  | cons sql others ih =>
    rw [attempts_cons]
    exact .next rfl (ih _)

def statementCall (sql : String) : Call := ⟨.statement, sql, 0, []⟩

private theorem attempts_recorded (driver : Driver σ) (statements : List String) (before : σ) (calls : List Call) :
    (attempts driver.recording statements).run ⟨before, calls⟩ =
      (((attempts driver statements).run before).1,
        ⟨((attempts driver statements).run before).2, calls ++ statements.map statementCall⟩) := by
  induction statements generalizing before calls with
  | nil =>
    rw [List.map_nil, List.append_nil]
    rfl
  | cons sql others ih =>
    have rest := ih ((driver.statement sql 0 []).run before).2 (calls ++ [statementCall sql])
    rw [attempts_cons, attempts_cons, List.map_cons, List.append_cons]
    exact congrArg (fun run => ((sql, ((driver.statement sql 0 []).run before).1) :: run.1, run.2)) rest

/-- Whatever a driver answers, each statement is asked for once, in order and without parameters, and the report accounts for
every answer. -/
theorem replay_accounted (driver : Driver σ) (statements : List String) (before : σ) :
    ∃ outcomes report after, outcomes.map (·.1) = statements ∧ Answered driver before outcomes after ∧
      (replay driver statements).run before = (report, after) ∧ Accounts outcomes report ∧
      ∀ calls, (replay driver.recording statements).run ⟨before, calls⟩ =
        (report, ⟨after, calls ++ statements.map fun sql => ⟨.statement, sql, 0, []⟩⟩) := by
  refine ⟨_, _, _, attempts_texts driver statements before, attempts_answered driver statements before, rfl,
    report_accounts _, fun calls => ?_⟩
  exact congrArg (fun run => (Report.of run.1, run.2)) (attempts_recorded driver statements before calls)

end Relmap.Schema
