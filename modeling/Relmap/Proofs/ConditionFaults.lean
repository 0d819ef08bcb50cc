import Relmap.Proofs.QuerySetAnswers

/-! Conditions without a meaning. Whatever is asked with such a condition, the answer is what is wrong with it
furthest to the left, and no driver hears of it. -/

namespace Relmap

variable {σ α β : Type}

namespace Condition

mutual

def nodes : Condition → List Condition
  | .all operands => .all operands :: nodesOf operands
  | .any operands => .any operands :: nodesOf operands
  | .not operand => .not operand :: operand.nodes
  | .group operand => .group operand :: operand.nodes
  | leaf => [leaf]

def nodesOf : List Condition → List Condition
  | [] => []
  | operand :: rest => operand.nodes ++ nodesOf rest

end

/-- What is wrong with a condition, whatever the conditions inside it are. -/
def ownFault? : Condition → Option ConditionError
  | .inList column [] => some (.emptyInList column)
  | .all [] => some (.emptyCombinator .and)
  | .any [] => some (.emptyCombinator .or)
  | _ => none

def fault? (condition : Condition) : Option ConditionError := condition.nodes.findSome? ownFault?

def firstFault? (conditions : List Condition) : Option ConditionError := conditions.findSome? fault?

private theorem ownFault?_isSome (condition : Condition) : condition.ownFault?.isSome ↔
    (∃ column, condition = .inList column []) ∨ condition = .all [] ∨ condition = .any [] := by
  cases condition with
  | inList column values => cases values <;> simp [ownFault?]
  | all operands | any operands => cases operands <;> simp [ownFault?]
  | _ => simp [ownFault?]

private theorem nodes_node (combinator : Combinator) (operands : List Condition) :
    (combinator.node operands).nodes = combinator.node operands :: operands.flatMap nodes := by
  have each : nodesOf operands = operands.flatMap nodes := by
    induction operands with
    | nil => rfl
    | cons operand operands ih => rw [nodesOf, List.flatMap_cons, ih]
  rw [← each]
  cases combinator <;> rfl

private theorem findSome?_nodes (operands : List Condition) :
    (operands.flatMap nodes).findSome? ownFault? = firstFault? operands := by
  induction operands with
  | nil => rfl
  | cons operand operands ih =>
    rw [List.flatMap_cons, List.findSome?_append, ih, firstFault?, firstFault?, List.findSome?_cons, fault?]
    cases operand.nodes.findSome? ownFault? <;> rfl

/-- A combination of something has no fault of its own. -/
theorem fault?_node (combinator : Combinator) {operands : List Condition} (nonempty : operands ≠ []) :
    (combinator.node operands).fault? = firstFault? operands := by
  obtain ⟨operand, rest, rfl⟩ := List.exists_cons_of_ne_nil nonempty
  have sound : (combinator.node (operand :: rest)).ownFault? = none := by cases combinator <;> rfl
  rw [fault?, nodes_node, List.findSome?_cons, sound]
  exact findSome?_nodes _

private theorem fault?_combined {combinator : Combinator} {operands : List Condition} {combined : Condition}
    (done : combine combinator operands = .ok combined) : combined.fault? = firstFault? operands := by
  rcases combine_ok.mp done with rfl | ⟨several, rfl⟩
  · exact List.findSome?_singleton.symm
  · exact fault?_node combinator (List.ne_nil_of_length_pos (Nat.lt_of_succ_lt several))

/-- What comes of a compilation: its fault is the error, and without one there is a result. -/
def Decides (fault : Option ConditionError) (compiled : Except ConditionError α) : Prop :=
  match fault with
  | some error => compiled = .error error
  | none => ∃ part, compiled = .ok part

theorem Decides.bind_ok {fault : Option ConditionError} {compiled : Except ConditionError α}
    (decides : Decides fault compiled) (finish : α → β) : Decides fault (do return finish (← compiled)) := by
  cases fault with
  | some error => rw [show compiled = .error error from decides]; rfl
  | none =>
    obtain ⟨part, rfl⟩ := decides
    exact ⟨finish part, rfl⟩

private theorem fragments_decided {operands : List Condition}
    (each : ∀ operand ∈ operands, Decides operand.fault? operand.fragment) :
    Decides (firstFault? operands) (fragments operands) := by
  induction operands with
  | nil => exact ⟨[], rfl⟩
  | cons operand operands ih =>
    obtain ⟨own, others⟩ := List.forall_mem_cons.mp each
    rw [firstFault?, List.findSome?_cons, fragments]
    cases fault : operand.fault? with
    | some error =>
      rw [fault] at own
      rw [show operand.fragment = .error error from own]
      rfl
    | none =>
      rw [fault] at own
      obtain ⟨part, compiled⟩ := own
      rw [compiled]
      exact (ih others).bind_ok (part :: ·)

/-- The leftmost fault of a condition decides whether it compiles, and is the error if it does not. -/
theorem fragment_decided (condition : Condition) : Decides condition.fault? condition.fragment := by
  induction condition using Condition.induction with
  | leaf condition isLeaf =>
    cases condition with
    | inList column values =>
      cases values with
      | nil => rfl
      | cons value values => exact ⟨_, rfl⟩
    | all operands | any operands | not operand | group operand => contradiction
    | _ => exact ⟨_, rfl⟩
  | node combinator operands ih =>
    cases operands with
    | nil => cases combinator <;> rfl
    | cons operand operands =>
      have parts := fragments_decided ih
      rw [fault?_node combinator (List.cons_ne_nil _ _)]
      cases fault : firstFault? (operand :: operands) with
      | some error =>
        rw [fault] at parts
        rw [fragment_node, show fragments (operand :: operands) = .error error from parts]
        rfl
      | none =>
        rw [fault] at parts
        obtain ⟨parts, compiled⟩ := parts
        exact ⟨_, node_ok.mpr ⟨List.cons_ne_nil _ _, parts, fragments_ok.mp compiled, rfl⟩⟩
  | not operand ih | group operand ih => exact ih.bind_ok _

theorem fragment_error {condition : Condition} {error : ConditionError} :
    condition.fragment = .error error ↔ condition.fault? = some error := by
  have decided := condition.fragment_decided
  cases fault : condition.fault? with
  | some first =>
    rw [fault] at decided
    rw [show condition.fragment = .error first from decided]
    simp
  | none =>
    rw [fault] at decided
    obtain ⟨part, compiled⟩ := decided
    rw [compiled]
    simp

theorem ofCondition_error {condition : Condition} {error : ConditionError} :
    WhereClause.ofCondition (some condition) = .error error ↔ condition.fault? = some error := by
  rw [← fragment_error, WhereClause.ofCondition]
  cases condition.fragment <;> simp [bind, Except.bind, pure, Except.pure]

theorem fault?_isSome (condition : Condition) : condition.fault?.isSome ↔
    ∃ node ∈ condition.nodes, (∃ column, node = .inList column []) ∨ node = .all [] ∨ node = .any [] := by
  simp only [fault?, List.findSome?_isSome_iff, ownFault?_isSome]

end Condition

theorem Inquiry.statement_error (inquiry : Inquiry) {condition : Condition} {error : ConditionError}
    (asked : inquiry.condition = some condition) (faulty : condition.fault? = some error) :
    inquiry.statement = .error error := by
  have compiled : condition.fragment = .error error := Condition.fragment_error.mpr faulty
  rw [statement_fragment, fragment, asked, Table.condition, compiled]
  rfl

namespace Session

/-- The session fails in every state and leaves it as it is. -/
def Refuses (error : QueryError) (session : Session σ α) : Prop :=
  ∀ state, session.perform state = (.error error, state)

theorem Refuses.bind {error : QueryError} {session : Session σ α} (refuses : session.Refuses error)
    (next : α → Session σ β) : (session >>= next).Refuses error := by
  intro state
  rw [Exchange.perform_bind, refuses state]

theorem refuses_lift {ε : Type} {wrap : ε → QueryError} {step : Except ε α} {error : ε} (failed : step = .error error) :
    (lift wrap step : Session σ α).Refuses (wrap error) := by
  subst failed
  exact fun _ => rfl

end Session

namespace Driver

variable (driver : Driver σ) (table : Table) {condition : Condition} {error : ConditionError}
  (faulty : condition.fault? = some error)

include faulty

theorem selectRows_refuses {selection : Selection} (own : selection.condition = some condition) (window : Option Window) :
    (driver.selectRows table selection window).Refuses (.condition error) := by
  have unstated := (Inquiry.rows table selection window).statement_error own faulty
  exact (Session.refuses_lift unstated).bind _

theorem selectMapped_refuses (mapper : Mapper α) {selection : Selection} (own : selection.condition = some condition)
    (window : Option Window) : (driver.selectMapped table mapper selection window).Refuses (.condition error) :=
  (driver.selectRows_refuses table faulty own window).bind _

theorem count_refuses : (driver.count table (some condition)).Refuses (.condition error) :=
  (Session.refuses_lift (Condition.ofCondition_error.mpr faulty)).bind _

theorem pageMapped_refuses (mapper : Mapper α) {selection : Selection} (own : selection.condition = some condition)
    (request : PageRequest) : (driver.pageMapped table mapper selection request).Refuses (.condition error) :=
  (driver.selectMapped_refuses table faulty mapper own (some request.window)).bind _

end Driver

/-- A faulty filter or exclusion is a fault of the whole query; filters come first. -/
theorem QuerySet.condition_faulty {query : QuerySet α} {error : ConditionError}
    (faulty : Condition.firstFault? (query.filters ++ query.excludes) = some error) :
    ∃ condition, query.condition = some condition ∧ condition.fault? = some error := by
  have negated : Condition.firstFault? (query.filters ++ query.excludes.map .not) = some error := by
    rw [Condition.firstFault?, List.findSome?_append] at faulty ⊢
    rw [List.findSome?_map]
    exact faulty
  have nonempty : query.filters ++ query.excludes.map .not ≠ [] := by
    intro none
    rw [none] at negated
    contradiction
  obtain ⟨condition, done⟩ := Condition.combine_some .and nonempty
  exact ⟨condition, condition_some.mpr done, (Condition.fault?_combined done).trans negated⟩

namespace Operation

def table : Operation α → Except RegistryError Table
  | .selectRows table _ _ | .selectMapped table _ _ _ | .count table _ => .ok table
  | .pageMapped table _ _ _ | .pageRows table _ _ => .ok table
  | .selectIn registry entity _ _ => registry.resolve entity.typeId
  | .select installed entity _ _ | .page installed entity _ _ => installed.resolve entity.typeId
  | .fetch query installed | .fetchFirst query installed | .fetchOnly query installed => query.table installed
  | .fetchCount query installed | .fetchAny query installed | .fetchPage query installed _ => query.table installed

/-- The conditions that a caller gave; those of a query are its filters, then its exclusions. -/
def conditions : Operation α → List Condition
  | .selectRows _ selection _ | .selectMapped _ _ selection _ | .selectIn _ _ selection _ => selection.condition.toList
  | .select _ _ selection _ | .pageMapped _ _ selection _ | .pageRows _ selection _ => selection.condition.toList
  | .page _ _ selection _ => selection.condition.toList
  | .count _ condition => condition.toList
  | .fetch query _ | .fetchFirst query _ | .fetchOnly query _ => query.filters ++ query.excludes
  | .fetchCount query _ | .fetchAny query _ | .fetchPage query _ _ => query.filters ++ query.excludes

private theorem given_faulty {given : Option Condition} {error : ConditionError}
    (faulty : Condition.firstFault? given.toList = some error) :
    ∃ condition, given = some condition ∧ condition.fault? = some error := by
  cases given with
  | none => contradiction
  | some condition =>
    rw [Condition.firstFault?, Option.toList_some, List.findSome?_singleton] at faulty
    exact ⟨condition, rfl, faulty⟩

private theorem resolved_refuses {resolution : Except RegistryError Table} {table : Table} {error : QueryError}
    {next : Table → Session σ α} (resolved : resolution = .ok table) (refuses : (next table).Refuses error) :
    (Session.lift .registry resolution >>= next).Refuses error := by
  subst resolved
  exact refuses

private theorem fetch_refuses (query : QuerySet α) {installed : Installation} (driver : Driver σ) {table : Table}
    {error : ConditionError} (resolved : query.table installed = .ok table)
    (faulty : Condition.firstFault? (query.filters ++ query.excludes) = some error) :
    (query.fetch installed driver).Refuses (.condition error) := by
  obtain ⟨condition, own, faulty⟩ := QuerySet.condition_faulty faulty
  rw [query.fetch_selects]
  exact resolved_refuses resolved (driver.selectMapped_refuses table faulty _ own _)

private theorem count_refuses (query : QuerySet α) {installed : Installation} (driver : Driver σ) {table : Table}
    {error : ConditionError} (resolved : query.table installed = .ok table)
    (faulty : Condition.firstFault? (query.filters ++ query.excludes) = some error) :
    (query.count installed driver).Refuses (.condition error) := by
  obtain ⟨condition, own, faulty⟩ := QuerySet.condition_faulty faulty
  refine resolved_refuses resolved ?_
  rw [own]
  exact driver.count_refuses table faulty

theorem run_refuses {operation : Operation α} (driver : Driver σ) {table : Table} {error : ConditionError}
    (resolved : operation.table = .ok table) (faulty : Condition.firstFault? operation.conditions = some error) :
    (operation.run driver).Refuses (.condition error) := by
  cases operation with
  | selectRows table selection window =>
    obtain ⟨condition, own, wrong⟩ := given_faulty faulty
    exact driver.selectRows_refuses table wrong own window
  | selectMapped table mapper selection window =>
    obtain ⟨condition, own, wrong⟩ := given_faulty faulty
    exact driver.selectMapped_refuses table wrong mapper own window
  | selectIn registry entity selection window =>
    obtain ⟨condition, own, wrong⟩ := given_faulty faulty
    exact resolved_refuses resolved (driver.selectMapped_refuses table wrong entity.read own window)
  | select installed entity selection window =>
    obtain ⟨condition, own, wrong⟩ := given_faulty faulty
    cases installed with
    | none => contradiction
    | some registry => exact resolved_refuses resolved (driver.selectMapped_refuses table wrong entity.read own window)
  | count table given =>
    obtain ⟨condition, rfl, wrong⟩ := given_faulty faulty
    exact driver.count_refuses table wrong
  | pageMapped table mapper selection request =>
    obtain ⟨condition, own, wrong⟩ := given_faulty faulty
    exact driver.pageMapped_refuses table wrong mapper own request
  | pageRows table selection request =>
    obtain ⟨condition, own, wrong⟩ := given_faulty faulty
    exact driver.pageMapped_refuses table wrong .ok own request
  | page installed entity selection request =>
    obtain ⟨condition, own, wrong⟩ := given_faulty faulty
    cases installed with
    | none => contradiction
    | some registry => exact resolved_refuses resolved (driver.pageMapped_refuses table wrong entity.read own request)
  | fetch query installed => exact fetch_refuses query driver resolved faulty
  | fetchFirst query installed =>
    exact (fetch_refuses (query.limited 1) driver resolved faulty).bind _
  | fetchOnly query installed =>
    exact (fetch_refuses (query.limited 2) driver resolved faulty).bind _
  | fetchCount query installed => exact count_refuses query driver resolved faulty
  | fetchAny query installed => exact (count_refuses query driver resolved faulty).bind _
  | fetchPage query installed request =>
    obtain ⟨condition, own, wrong⟩ := QuerySet.condition_faulty faulty
    exact resolved_refuses resolved (driver.pageMapped_refuses table wrong query.entity.read own request)

/-- A condition compiles unless a list of values or a combination in it is empty, and the leftmost one is the error.
The same error ends every statement and every operation that such a condition is given to: the state of the
driver stays as it is, and no call is made. Of a query's conditions the filters come first, then the exclusions,
both in the order in which they were added. -/
theorem faults_refused :
    (∀ condition : Condition, (∃ error, WhereClause.ofCondition (some condition) = .error error) ↔
      ∃ node ∈ condition.nodes, (∃ column, node = .inList column []) ∨ node = .all [] ∨ node = .any []) ∧
    (∀ (condition : Condition) error,
      WhereClause.ofCondition (some condition) = .error error ↔ condition.fault? = some error) ∧
    (∀ (condition : Condition) error, condition.fault? = some error → ∀ (table : Table) order window,
      table.select (some condition) order window = .error error) ∧
    (∀ {α : Type} (entity : Entity α) registry steps,
      (QuerySet.built entity registry steps).filters ++ (QuerySet.built entity registry steps).excludes =
        steps.filterMap QuerySet.Step.filter? ++ steps.filterMap QuerySet.Step.exclude?) ∧
    ∀ {α : Type} (operation : Operation α) (table : Table) error, operation.table = .ok table →
      Condition.firstFault? operation.conditions = some error → ∀ {σ : Type} (driver : Driver σ) (state : σ),
        (operation.run driver).perform state = (.error (.condition error), state) ∧ operation.calls driver state = [] := by
  refine ⟨fun condition => ?_, fun _ _ => Condition.ofCondition_error, ?_, ?_, ?_⟩
  · simp only [Condition.ofCondition_error, ← Condition.fault?_isSome, Option.isSome_iff_exists]
  · intro condition error faulty table order window
    exact (Inquiry.rows table ⟨some condition, order⟩ window).statement_error rfl faulty
  · intro α entity registry steps
    rw [QuerySet.built_fields]
  · intro α operation table error resolved faulty σ driver state
    refine ⟨run_refuses driver resolved faulty state, ?_⟩
    rw [calls, run_refuses driver.recording resolved faulty ⟨state, []⟩]

def faultyPage : Operation (Page Row) :=
  .fetchPage (.built ⟨"T", .ok⟩ (some [⟨"t", "T", []⟩])
    [.exclude (.group (.any [.isNull "a", .not (.inList "b" [])])), .filter (.not (.all [.isNull "c", .any []]))])
    none ⟨1, 10, true⟩

/-- The fault of a filter comes before that of an exclusion that was added earlier. -/
theorem faults_refused_filter :
    faultyPage.table = .ok ⟨"t", "T", []⟩ ∧
    (faultyPage.run Script.driver).perform ⟨[.rows [[.null]]], []⟩ =
      (.error (.condition (.emptyCombinator .or)), ⟨[.rows [[.null]]], []⟩) := by
  obtain ⟨-, -, -, -, refused⟩ := faults_refused
  exact ⟨rfl, (refused faultyPage ⟨"t", "T", []⟩ (.emptyCombinator .or) rfl rfl Script.driver _).1⟩

end Operation

end Relmap
