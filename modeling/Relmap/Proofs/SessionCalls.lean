import Relmap.Driver.Script
import Relmap.QuerySet
import Relmap.Proofs.Exchanges
import Relmap.Proofs.Inquiries
import Relmap.Proofs.WindowArithmetic

/-! The calls that reach a driver. A query makes no call but those of its plan, whatever the driver
answers and whichever of its answers are errors. -/

namespace Relmap

variable {σ α β : Type}

structure Recorded (σ : Type) where
  state : σ
  calls : List Call := []

namespace Recorded

def request (call : Call) (answer : StateM σ α) : StateM (Recorded σ) α := fun recorded =>
  let (reply, after) := answer.run recorded.state
  (reply, ⟨after, recorded.calls ++ [call]⟩)

end Recorded

def Driver.recording (driver : Driver σ) : Driver (Recorded σ) where
  query sql parameters bindings :=
    Recorded.request ⟨.query, sql, parameters, bindings⟩ (driver.query sql parameters bindings)
  statement sql parameters bindings :=
    Recorded.request ⟨.statement, sql, parameters, bindings⟩ (driver.statement sql parameters bindings)

namespace Session

theorem perform_request (answer : StateM σ (Except DriverError α)) (state : σ) :
    (request answer).perform state = ((answer.run state).1.mapError .database, (answer.run state).2) := rfl

/-- Every call that the session adds to a record is of an allowed kind. -/
def Keeps (allowed : Call → Prop) (session : Session (Recorded σ) α) : Prop :=
  ∀ recorded : Recorded σ, (∀ call ∈ recorded.calls, allowed call) →
    ∀ call ∈ (session.perform recorded).2.calls, allowed call

namespace Keeps

variable {allowed : Call → Prop}

theorem pure (value : α) : Keeps (σ := σ) allowed (Pure.pure value) := fun _ kept => kept

theorem throw (error : QueryError) : Keeps (σ := σ) (α := α) allowed (MonadExcept.throw error) := fun _ kept => kept

theorem bind {session : Session (Recorded σ) α} {next : α → Session (Recorded σ) β} (first : session.Keeps allowed)
    (rest : ∀ value, (next value).Keeps allowed) : (session >>= next).Keeps allowed := by
  intro recorded kept
  have after := first recorded kept
  rw [Exchange.perform_bind]
  cases result : session.perform recorded with
  | mk outcome state =>
    rw [result] at after
    cases outcome with
    | error error => exact after
    | ok value => exact rest value state after

theorem map (f : α → β) {session : Session (Recorded σ) α} (kept : session.Keeps allowed) :
    (f <$> session).Keeps allowed := by
  rw [map_eq_pure_bind]
  exact kept.bind fun value => pure (f value)

theorem lift {ε : Type} {wrap : ε → QueryError} (step : Except ε α) : Keeps (σ := σ) allowed (Session.lift wrap step) := by
  cases step with
  | error error => exact throw (wrap error)
  | ok value => exact pure value

/-- What follows a step without the driver matters only where the step succeeds. -/
theorem lift_bind {ε : Type} {wrap : ε → QueryError} {step : Except ε α} {next : α → Session (Recorded σ) β}
    (rest : ∀ value, step = .ok value → (next value).Keeps allowed) : (Session.lift wrap step >>= next).Keeps allowed := by
  cases step with
  | error error => exact throw (wrap error)
  | ok value => exact rest value rfl

end Keeps

end Session

def Statement.call (statement : Statement) : Call :=
  ⟨.query, statement.sql, statement.arguments.length, bindings statement.arguments⟩

def Inquiry.Asks (inquiry : Inquiry) (call : Call) : Prop :=
  ∃ statement, inquiry.statement = .ok statement ∧ call = statement.call

/-- The calls that the inquiries of a plan lead to. -/
def Planned (plan : List Inquiry) (call : Call) : Prop := ∃ inquiry ∈ plan, inquiry.Asks call

/-- The rows of a page come first, then their number where it is asked for. -/
def PageRequest.plan (request : PageRequest) (table : Table) (selection : Selection) : List Inquiry :=
  .rows table selection (some request.window) ::
    if request.includeTotal then [.number table selection.condition] else []

/-- A query as its caller puts it, with the type of its result. -/
inductive Operation : Type → Type 1 where
  | selectRows (table : Table) (selection : Selection) (window : Option Window) : Operation (List Row)
  | selectMapped {α : Type} (table : Table) (mapper : Mapper α) (selection : Selection) (window : Option Window) :
    Operation (List α)
  | selectIn {α : Type} (registry : Registry) (entity : Entity α) (selection : Selection) (window : Option Window) :
    Operation (List α)
  | select {α : Type} (installed : Installation) (entity : Entity α) (selection : Selection) (window : Option Window) :
    Operation (List α)
  | count (table : Table) (condition : Option Condition) : Operation UInt64
  | pageMapped {α : Type} (table : Table) (mapper : Mapper α) (selection : Selection) (request : PageRequest) :
    Operation (Page α)
  | pageRows (table : Table) (selection : Selection) (request : PageRequest) : Operation (Page Row)
  | page {α : Type} (installed : Installation) (entity : Entity α) (selection : Selection) (request : PageRequest) :
    Operation (Page α)
  | fetch {α : Type} (query : QuerySet α) (installed : Installation) : Operation (List α)
  | fetchFirst {α : Type} (query : QuerySet α) (installed : Installation) : Operation (Option α)
  | fetchOnly {α : Type} (query : QuerySet α) (installed : Installation) : Operation α
  | fetchCount {α : Type} (query : QuerySet α) (installed : Installation) : Operation UInt64
  | fetchAny {α : Type} (query : QuerySet α) (installed : Installation) : Operation Bool
  | fetchPage {α : Type} (query : QuerySet α) (installed : Installation) (request : PageRequest) : Operation (Page α)

namespace Operation

def run (driver : Driver σ) : Operation α → Session σ α
  | .selectRows table selection window => driver.selectRows table selection window
  | .selectMapped table mapper selection window => driver.selectMapped table mapper selection window
  | .selectIn registry entity selection window => driver.selectIn registry entity selection window
  | .select installed entity selection window => driver.select installed entity selection window
  | .count table condition => driver.count table condition
  | .pageMapped table mapper selection request => driver.pageMapped table mapper selection request
  | .pageRows table selection request => driver.pageRows table selection request
  | .page installed entity selection request => driver.page installed entity selection request
  | .fetch query installed => query.fetch installed driver
  | .fetchFirst query installed => query.first installed driver
  | .fetchOnly query installed => query.get installed driver
  | .fetchCount query installed => query.count installed driver
  | .fetchAny query installed => query.hasAny installed driver
  | .fetchPage query installed request => query.page installed driver request

def calls (operation : Operation α) (driver : Driver σ) (state : σ) : List Call :=
  ((operation.run driver.recording).perform ⟨state, []⟩).2.calls

/-- What is asked about the table that an entity resolves to. -/
def resolved (table : Except RegistryError Table) (plan : Table → List Inquiry) : List Inquiry :=
  match table with
  | .ok table => plan table
  | .error _ => []

/-- What an operation asks, in the order of asking. One row is enough for the first, and two are enough to see
that there is more than one. -/
def plan : Operation α → List Inquiry
  | .selectRows table selection window => [.rows table selection window]
  | .selectMapped table _ selection window => [.rows table selection window]
  | .selectIn registry entity selection window =>
    resolved (registry.resolve entity.typeId) fun table => [.rows table selection window]
  | .select installed entity selection window =>
    resolved (installed.resolve entity.typeId) fun table => [.rows table selection window]
  | .count table condition => [.number table condition]
  | .pageMapped table _ selection request => request.plan table selection
  | .pageRows table selection request => request.plan table selection
  | .page installed entity selection request =>
    resolved (installed.resolve entity.typeId) fun table => request.plan table selection
  | .fetch query installed =>
    resolved (query.table installed) fun table => [.rows table query.selection query.window]
  | .fetchFirst query installed =>
    resolved (query.table installed) fun table => [.rows table query.selection (query.limited 1).window]
  | .fetchOnly query installed =>
    resolved (query.table installed) fun table => [.rows table query.selection (query.limited 2).window]
  | .fetchCount query installed | .fetchAny query installed =>
    resolved (query.table installed) fun table => [.number table query.condition]
  | .fetchPage query installed request =>
    resolved (query.table installed) fun table => request.plan table query.selection

end Operation

namespace Driver

variable {allowed : Call → Prop} (driver : Driver σ)

private theorem rows_keep {statement : Statement} (own : allowed statement.call) :
    (driver.recording.rows statement).Keeps allowed := by
  intro recorded kept call member
  rcases List.mem_append.mp member with earlier | last
  · exact kept call earlier
  · cases List.mem_singleton.mp last
    exact own

theorem selectRows_keep {table : Table} {selection : Selection} {window : Option Window}
    (own : ∀ call, (Inquiry.rows table selection window).Asks call → allowed call) :
    (driver.recording.selectRows table selection window).Keeps allowed := by
  apply Session.Keeps.lift_bind
  intro statement compiled
  apply (driver.rows_keep (own _ ⟨statement, compiled, rfl⟩)).bind
  intro rows
  exact Session.Keeps.pure _

theorem selectMapped_keep {table : Table} {mapper : Mapper α} {selection : Selection} {window : Option Window}
    (own : ∀ call, (Inquiry.rows table selection window).Asks call → allowed call) :
    (driver.recording.selectMapped table mapper selection window).Keeps allowed := by
  apply (driver.selectRows_keep own).bind
  intro rows
  exact Session.Keeps.lift (rows.mapM mapper)

theorem count_keep {table : Table} {condition : Option Condition}
    (own : ∀ call, (Inquiry.number table condition).Asks call → allowed call) :
    (driver.recording.count table condition).Keeps allowed := by
  apply Session.Keeps.lift_bind
  intro clause compiled
  have asked : (Inquiry.number table condition).statement = .ok (clause.count table.name) := by
    rw [Inquiry.statement, compiled]
    rfl
  apply ((driver.rows_keep (own _ ⟨_, asked, rfl⟩)).bind fun rows => Session.Keeps.pure _).bind
  intro number
  exact Session.Keeps.pure _

theorem pageMapped_keep {table : Table} {mapper : Mapper α} {selection : Selection} {request : PageRequest}
    (own : ∀ call, Planned (request.plan table selection) call → allowed call) :
    (driver.recording.pageMapped table mapper selection request).Keeps allowed := by
  apply (driver.selectMapped_keep fun call asks => own call ⟨_, by simp [PageRequest.plan], asks⟩).bind
  intro items
  cases total : request.includeTotal with
  | false => exact (Session.Keeps.pure none).bind fun total => Session.Keeps.lift _
  | true =>
    have counted : (driver.recording.count table selection.condition).Keeps allowed :=
      driver.count_keep fun call asks => own call ⟨_, by simp [PageRequest.plan, total], asks⟩
    exact (counted.map some).bind fun total => Session.Keeps.lift _

end Driver

/-- No page that is asked for by its number stops the program. -/
theorem Driver.pageMapped_shows (driver : Driver σ) (table : Table) (mapper : Mapper α) (selection : Selection)
    (request : PageRequest) : driver.pageMapped table mapper selection request = do
      let items ← driver.selectMapped table mapper selection (some request.window)
      let total ← if request.includeTotal then some <$> driver.count table selection.condition else pure none
      return request.shows items total := by
  simp only [pageMapped, request.page_shows]
  rfl

/-- Fetching is a selection in the query's own table. -/
theorem QuerySet.fetch_selects (query : QuerySet α) (installed : Installation) (driver : Driver σ) :
    query.fetch installed driver = Session.lift .registry (query.table installed) >>= fun table =>
      driver.selectMapped table query.entity.read query.selection query.window := by
  simp only [fetch, Driver.selectMapped, Driver.selectRows, selection, bind_assoc]

namespace Operation

private theorem resolved_keep {allowed : Call → Prop} {table : Except RegistryError Table} {plan : Table → List Inquiry}
    {next : Table → Session (Recorded σ) α} (own : ∀ call, Planned (resolved table plan) call → allowed call)
    (rest : ∀ table, (∀ call, Planned (plan table) call → allowed call) → (next table).Keeps allowed) :
    (Session.lift .registry table >>= next).Keeps allowed := by
  apply Session.Keeps.lift_bind
  rintro table rfl
  exact rest table own

private theorem only {allowed : Call → Prop} {inquiry : Inquiry} (own : ∀ call, Planned [inquiry] call → allowed call) :
    ∀ call, inquiry.Asks call → allowed call :=
  fun call asks => own call ⟨inquiry, List.mem_singleton_self _, asks⟩

private theorem fetch_keep {allowed : Call → Prop} (query : QuerySet α) (installed : Installation) (driver : Driver σ)
    (own : ∀ call, Planned (resolved (query.table installed) fun table => [.rows table query.selection query.window]) call →
      allowed call) : (query.fetch installed driver.recording).Keeps allowed := by
  rw [query.fetch_selects]
  exact resolved_keep own fun _ own => driver.selectMapped_keep (only own)

private theorem count_keep {allowed : Call → Prop} (query : QuerySet α) (installed : Installation) (driver : Driver σ)
    (own : ∀ call, Planned (resolved (query.table installed) fun table => [.number table query.condition]) call →
      allowed call) : (query.count installed driver.recording).Keeps allowed :=
  resolved_keep own fun _ own => driver.count_keep (only own)

private theorem run_keeps (operation : Operation α) (driver : Driver σ) {allowed : Call → Prop}
    (own : ∀ call, Planned operation.plan call → allowed call) : (operation.run driver.recording).Keeps allowed := by
  cases operation with
  | selectRows table selection window => exact driver.selectRows_keep (only own)
  | selectMapped table mapper selection window => exact driver.selectMapped_keep (only own)
  | selectIn registry entity selection window =>
    exact resolved_keep own fun table own => driver.selectMapped_keep (only own)
  | select installed entity selection window =>
    cases installed with
    | none => exact Session.Keeps.throw _
    | some registry => exact resolved_keep own fun table own => driver.selectMapped_keep (only own)
  | count table condition => exact driver.count_keep (only own)
  | pageMapped table mapper selection request => exact driver.pageMapped_keep own
  | pageRows table selection request => exact driver.pageMapped_keep own
  | page installed entity selection request =>
    cases installed with
    | none => exact Session.Keeps.throw _
    | some registry => exact resolved_keep own fun table own => driver.pageMapped_keep own
  | fetch query installed => exact fetch_keep query installed driver own
  | fetchFirst query installed =>
    exact (fetch_keep (query.limited 1) installed driver own).bind fun items => Session.Keeps.pure _
  | fetchOnly query installed =>
    apply (fetch_keep (query.limited 2) installed driver own).bind
    intro items
    match items with
    | [] => exact Session.Keeps.throw .notFound
    | [item] => exact Session.Keeps.pure item
    | _ :: _ :: _ => exact Session.Keeps.throw .multipleObjects
  | fetchCount query installed => exact count_keep query installed driver own
  | fetchAny query installed =>
    exact (count_keep query installed driver own).bind fun number => Session.Keeps.pure _
  | fetchPage query installed request =>
    exact resolved_keep own fun table own => driver.pageMapped_keep own

/-- No operation makes a call that is not in its plan. -/
theorem calls_planned (operation : Operation α) (driver : Driver σ) (state : σ) :
    ∀ call ∈ operation.calls driver state, Planned operation.plan call :=
  operation.run_keeps driver (fun _ planned => planned) ⟨state, []⟩ (by simp)

end Operation

end Relmap
