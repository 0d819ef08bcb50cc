import Relmap.Proofs.ConditionFaults

/-! Programs that leave it to their process which registry is meant. Over a whole run every query answers as if it
had named the registry that was installed first, and asks the driver for the same. -/

namespace Relmap

variable {σ α β : Type}

namespace QuerySet

def unbound (query : QuerySet α) : QuerySet α := { query with registry := none }

def within (query : QuerySet α) (registry : Registry) : QuerySet α := { query with registry := some registry }

/-- To fetch from the registry of the process is to select with the query's conditions, order and bounds. -/
theorem fetch_unbound (query : QuerySet α) (installed : Installation) (driver : Driver σ) :
    query.unbound.fetch installed driver = driver.select installed query.entity query.selection query.window := by
  rw [fetch_selects]
  cases installed <;> rfl

private theorem page_unbound (query : QuerySet α) (installed : Installation) (driver : Driver σ) (request : PageRequest) :
    query.unbound.page installed driver request = driver.page installed query.entity query.selection request := by
  cases installed <;> rfl

end QuerySet

inductive TypedQuery : Type → Type 1 where
  | select {α : Type} (entity : Entity α) (selection : Selection) (window : Option Window) : TypedQuery (List α)
  | page {α : Type} (entity : Entity α) (selection : Selection) (request : PageRequest) : TypedQuery (Page α)
  | fetch {α : Type} (query : QuerySet α) : TypedQuery (List α)
  | fetchFirst {α : Type} (query : QuerySet α) : TypedQuery (Option α)
  | fetchOnly {α : Type} (query : QuerySet α) : TypedQuery α
  | fetchCount {α : Type} (query : QuerySet α) : TypedQuery UInt64
  | fetchAny {α : Type} (query : QuerySet α) : TypedQuery Bool
  | fetchPage {α : Type} (query : QuerySet α) (request : PageRequest) : TypedQuery (Page α)

namespace TypedQuery

def typeId : TypedQuery α → String
  | .select entity _ _ | .page entity _ _ => entity.typeId
  | .fetch query | .fetchFirst query | .fetchOnly query => query.entity.typeId
  | .fetchCount query | .fetchAny query | .fetchPage query _ => query.entity.typeId

def operation (installed : Installation) : TypedQuery α → Operation α
  | .select entity selection window => .select installed entity selection window
  | .page entity selection request => .page installed entity selection request
  | .fetch query => .fetch query.unbound installed
  | .fetchFirst query => .fetchFirst query.unbound installed
  | .fetchOnly query => .fetchOnly query.unbound installed
  | .fetchCount query => .fetchCount query.unbound installed
  | .fetchAny query => .fetchAny query.unbound installed
  | .fetchPage query request => .fetchPage query.unbound installed request

/-- The same query where a registry is named, and the table of the entity where there is no such form. Nothing needs to
be installed for it. -/
def explicit (registry : Registry) (table : Table) : TypedQuery α → Operation α
  | .select entity selection window => .selectIn registry entity selection window
  | .page entity selection request => .pageMapped table entity.read selection request
  | .fetch query => .fetch (query.within registry) none
  | .fetchFirst query => .fetchFirst (query.within registry) none
  | .fetchOnly query => .fetchOnly (query.within registry) none
  | .fetchCount query => .fetchCount (query.within registry) none
  | .fetchAny query => .fetchAny (query.within registry) none
  | .fetchPage query request => .fetchPage (query.within registry) none request

theorem operation_table (query : TypedQuery α) (installed : Installation) :
    (query.operation installed).table = installed.resolve query.typeId := by
  cases query <;> rfl

private theorem operation_explicit (query : TypedQuery α) {registry : Registry} {table : Table}
    (found : registry.byTypeId query.typeId = some table) (driver : Driver σ) :
    (query.operation (some registry)).run driver = (query.explicit registry table).run driver := by
  have resolved : registry.resolve query.typeId = .ok table := by rw [Registry.resolve, found]
  cases query with
  | page entity selection request =>
    have resolved : registry.resolve entity.typeId = .ok table := resolved
    change (Session.lift .registry (registry.resolve entity.typeId) >>= fun table => driver.pageMapped table entity.read selection request) = _
    rw [resolved]
    rfl
  | _ => rfl

end TypedQuery

namespace Operation

theorem table_refuses (operation : Operation α) (driver : Driver σ) {error : RegistryError}
    (unresolved : operation.table = .error error) : (operation.run driver).Refuses (.registry error) := by
  cases operation with
  | selectRows | selectMapped | count | pageMapped | pageRows => cases unresolved
  | selectIn registry entity selection window => exact (Session.refuses_lift unresolved).bind _
  | select installed entity selection window =>
    cases installed with
    | none =>
      cases unresolved
      exact (Session.refuses_lift rfl).bind _
    | some registry => exact (Session.refuses_lift unresolved).bind _
  | page installed entity selection request =>
    cases installed with
    | none =>
      cases unresolved
      exact (Session.refuses_lift rfl).bind _
    | some registry => exact (Session.refuses_lift unresolved).bind _
  | fetch query installed => exact (Session.refuses_lift unresolved).bind _
  | fetchFirst query installed | fetchOnly query installed => exact ((Session.refuses_lift unresolved).bind _).bind _
  | fetchCount query installed => exact (Session.refuses_lift unresolved).bind _
  | fetchAny query installed => exact ((Session.refuses_lift unresolved).bind _).bind _
  | fetchPage query installed request => exact (Session.refuses_lift unresolved).bind _

end Operation

/-- What a process does that has to do with its registry. -/
inductive ProcessStep : Type → Type 1 where
  | install (registry : Registry) : ProcessStep (Except RegistryError Unit)
  | init : ProcessStep (Except RegistryError Unit)
  | lookup (typeId : String) : ProcessStep (Except RegistryError Table)
  | ask {α : Type} (query : TypedQuery α) : ProcessStep (Except QueryError α)

structure Process (σ : Type) where
  installed : Installation
  driver : σ

namespace ProcessStep

/-- The program comes with a registry that was generated for it. -/
def perform (generated : Registry) (driver : Driver σ) (process : Process σ) : ProcessStep β → β × Process σ
  | .install registry =>
    let (result, installed) := process.installed.install registry
    (result, { process with installed })
  | .init =>
    let (result, installed) := process.installed.install generated
    (result, { process with installed })
  | .lookup typeId => (process.installed.resolve typeId, process)
  | .ask query =>
    let (result, state) := ((query.operation process.installed).run driver).perform process.driver
    (result, { process with driver := state })

def offered (generated : Registry) : ProcessStep β → Option Registry
  | .install registry => some registry
  | .init => some generated
  | .lookup _ | .ask _ => none

/-- What the step comes to where a registry is known, without a process that holds it. Without one, and for a type id
that is not in it, no query gets as far as the driver. -/
def explicitly (driver : Driver σ) (known : Option Registry) (state : σ) : ProcessStep β → β × σ
  | .install _ | .init =>
    match known with
    | none => (.ok (), state)
    | some _ => (.error .alreadyInstalled, state)
  | .lookup typeId =>
    match known with
    | none => (.error .notInstalled, state)
    | some registry =>
      match registry.byTypeId typeId with
      | none => (.error (.unknownTypeId typeId), state)
      | some table => (.ok table, state)
  | .ask query =>
    match known with
    | none => (.error (.registry .notInstalled), state)
    | some registry =>
      match registry.byTypeId query.typeId with
      | none => (.error (.registry (.unknownTypeId query.typeId)), state)
      | some table => ((query.explicit registry table).run driver).perform state

/-- One step. The process knows the first registry, if any, and answers as it would if that were named. -/
theorem perform_explicitly (step : ProcessStep β) (generated : Registry) (driver : Driver σ) (known : Option Registry)
    (state : σ) : step.perform generated driver ⟨known, state⟩ =
      ((step.explicitly driver known state).1,
        ⟨known.or (step.offered generated), (step.explicitly driver known state).2⟩) := by
  cases step with
  | install registry | init => cases known <;> rfl
  | lookup typeId =>
    cases known with
    | none => rfl
    | some registry =>
      change (registry.resolve typeId, _) = _
      rw [Registry.resolve, explicitly]
      cases registry.byTypeId typeId <;> rfl
  | ask query =>
    rw [perform, offered, Option.or_none]
    cases known with
    | none =>
      have unresolved : (query.operation none).table = .error .notInstalled := query.operation_table none
      rw [Operation.table_refuses _ driver unresolved state]
      rfl
    | some registry =>
      cases found : registry.byTypeId query.typeId with
      | none =>
        have unresolved : (query.operation (some registry)).table = .error (.unknownTypeId query.typeId) := by
          rw [query.operation_table]
          change registry.resolve query.typeId = _
          rw [Registry.resolve, found]
        rw [Operation.table_refuses _ driver unresolved state]
        simp only [explicitly, found]
      | some table =>
        simp only [explicitly, found]
        rw [query.operation_explicit found]

end ProcessStep

namespace Process

def run (generated : Registry) (driver : Driver σ) : List (Sigma ProcessStep) → Process σ → List (Sigma id) × Process σ
  | [], process => ([], process)
  | ⟨β, step⟩ :: steps, process =>
    let (result, between) := step.perform generated driver process
    let (results, after) := run generated driver steps between
    (⟨β, result⟩ :: results, after)

def explicitRun (generated : Registry) (driver : Driver σ) : List (Sigma ProcessStep) → Option Registry → σ → List (Sigma id) × σ
  | [], _, state => ([], state)
  | ⟨β, step⟩ :: steps, known, state =>
    let (result, between) := step.explicitly driver known state
    let (results, after) := explicitRun generated driver steps (known.or (step.offered generated)) between
    (⟨β, result⟩ :: results, after)

def firstInstalled (generated : Registry) (steps : List (Sigma ProcessStep)) : Option Registry :=
  steps.findSome? fun step => step.2.offered generated

theorem firstInstalled_cons (generated : Registry) (step : ProcessStep β) (steps : List (Sigma ProcessStep)) :
    firstInstalled generated (⟨β, step⟩ :: steps) = (step.offered generated).or (firstInstalled generated steps) := by
  rw [firstInstalled, List.findSome?_cons]
  cases step.offered generated <;> rfl

/-- The induction is on the steps; what carries it is that the process holds the registry that is known. -/
theorem run_explicitly (generated : Registry) (driver : Driver σ) (steps : List (Sigma ProcessStep))
    (known : Option Registry) (state : σ) : run generated driver steps ⟨known, state⟩ =
      ((explicitRun generated driver steps known state).1,
        ⟨known.or (firstInstalled generated steps), (explicitRun generated driver steps known state).2⟩) := by
  induction steps generalizing known state with
  | nil => rw [run, explicitRun, firstInstalled, List.findSome?_nil, Option.or_none]
  | cons step steps ih =>
    obtain ⟨β, step⟩ := step
    simp only [run, step.perform_explicitly, ih, explicitRun, firstInstalled_cons, Option.or_assoc]

/-- A program that starts with nothing installed runs as the program does that names the registry of its first
installation in each query, with the same results and the same calls. The first installation succeeds and is never
replaced. A query that is put together in steps is the same as a selection, or a page, with its conditions, its
order and its bounds. -/
theorem registries_agree (generated : Registry) (driver : Driver σ) (steps : List (Sigma ProcessStep)) (state : σ) :
    run generated driver steps ⟨none, state⟩ =
        ((explicitRun generated driver steps none state).1,
          ⟨firstInstalled generated steps, (explicitRun generated driver steps none state).2⟩) ∧
      (run generated driver.recording steps ⟨none, ⟨state, []⟩⟩).2.driver.calls =
        (explicitRun generated driver.recording steps none ⟨state, []⟩).2.calls ∧
      ∀ {α : Type} (query : QuerySet α) (installed : Installation),
        query.unbound.fetch installed driver =
            driver.select installed query.entity ⟨query.condition, query.order⟩ query.window ∧
          ∀ request, query.unbound.page installed driver request =
            driver.page installed query.entity ⟨query.condition, query.order⟩ request := by
  refine ⟨run_explicitly generated driver steps none state, ?_, fun query installed => ⟨?_, fun request => ?_⟩⟩
  · rw [run_explicitly]
  · exact query.fetch_unbound installed driver
  · exact query.page_unbound installed driver request

end Process

end Relmap
