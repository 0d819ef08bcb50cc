import Relmap.Proofs.ConditionChains
import Relmap.Proofs.QuerySetAnswers

/-! What a query has collected when it is run. Filters, exclusions and orders keep the order of their own kind, of
limits and offsets the last counts, and nothing else of the steps is left. -/

namespace Relmap

variable {α β : Type}

def Operation.statements (operation : Operation α) : List (Except ConditionError Statement) :=
  operation.plan.map Inquiry.statement

namespace QuerySet

/-- The ways of running a query, with the types of their results. -/
inductive Terminal (α : Type) : Type → Type where
  | fetch : Terminal α (List α)
  | first : Terminal α (Option α)
  | get : Terminal α α
  | count : Terminal α UInt64
  | hasAny : Terminal α Bool
  | page (request : PageRequest) : Terminal α (Page α)

def Terminal.operation (query : QuerySet α) (installed : Installation) : Terminal α β → Operation β
  | .fetch => .fetch query installed
  | .first => .fetchFirst query installed
  | .get => .fetchOnly query installed
  | .count => .fetchCount query installed
  | .hasAny => .fetchAny query installed
  | .page request => .fetchPage query installed request

/-- The steps of each kind are the same in the same order, however they come between those of other kinds. Only the
last limit and the last offset need to be the same. -/
structure Interleaved (steps others : List Step) : Prop where
  filters : steps.filterMap Step.filter? = others.filterMap Step.filter?
  excludes : steps.filterMap Step.exclude? = others.filterMap Step.exclude?
  order : steps.filterMap Step.order? = others.filterMap Step.order?
  limit : (steps.filterMap Step.limit?).getLast? = (others.filterMap Step.limit?).getLast?
  offset : (steps.filterMap Step.offset?).getLast? = (others.filterMap Step.offset?).getLast?

private theorem built_interleaved (entity : Entity α) (registry : Option Registry) {steps others : List Step}
    (same : Interleaved steps others) : built entity registry steps = built entity registry others := by
  rw [built_fields, built_fields, same.filters, same.excludes, same.order, same.limit, same.offset]

private theorem condition_none {query : QuerySet α} :
    query.condition = none ↔ query.filters = [] ∧ query.excludes = [] := by
  constructor
  · intro none
    by_contra some
    have nonempty : query.filters ++ query.excludes.map .not ≠ [] := by simpa using some
    obtain ⟨condition, done⟩ := Condition.combine_some .and nonempty
    rw [condition_some.mpr done] at none
    contradiction
  · intro ⟨filters, excludes⟩
    rw [condition, filters, excludes]
    rfl

private theorem truth_condition {query : QuerySet α} {condition : Condition} (own : query.condition = some condition)
    (leaf : Condition → Truth) : condition.truth leaf = Combinator.and.truth
      (query.filters.map (Condition.truth leaf) ++ query.excludes.map fun excluded => (excluded.truth leaf).not) := by
  rw [Condition.truth_combined leaf (condition_some.mp own), List.map_append, List.map_map]
  rfl

private theorem values_condition {query : QuerySet α} {condition : Condition} (own : query.condition = some condition) :
    condition.values = (query.filters.map Condition.values).flatten ++ (query.excludes.map Condition.values).flatten := by
  rw [Condition.values_combined (condition_some.mp own), List.map_append, List.flatten_append, List.map_map]
  rfl

/-- A query has a condition unless nothing was filtered and nothing excluded. It is true of what all filters are true
of and no exclusion is, in the logic of three values, and its values are those of the filters and then those of the
exclusions, both in the order of the steps. Steps of different kinds may come between each other in any way: each way
of running the query makes the same statements. -/
theorem steps_collect (entity : Entity α) (registry : Option Registry) (steps : List Step) :
    ((built entity registry steps).condition = none ↔
      steps.filterMap Step.filter? = [] ∧ steps.filterMap Step.exclude? = []) ∧
    (∀ condition, (built entity registry steps).condition = some condition →
      (∀ leaf, condition.truth leaf = Combinator.and.truth
        ((steps.filterMap Step.filter?).map (Condition.truth leaf) ++
          (steps.filterMap Step.exclude?).map fun excluded => (excluded.truth leaf).not)) ∧
      condition.values = ((steps.filterMap Step.filter?).map Condition.values).flatten ++
        ((steps.filterMap Step.exclude?).map Condition.values).flatten ∧
      ∀ clause, WhereClause.ofCondition (some condition) = .ok clause → clause.arguments = condition.values) ∧
    ∀ others, Interleaved steps others → ∀ {β : Type} (terminal : Terminal α β) (installed : Installation),
      (terminal.operation (built entity registry steps) installed).statements =
        (terminal.operation (built entity registry others) installed).statements ∧
      ∀ {σ : Type} (driver : Driver σ) (state : σ),
        (terminal.operation (built entity registry steps) installed).calls driver state =
          (terminal.operation (built entity registry others) installed).calls driver state := by
  refine ⟨?_, ?_, ?_⟩
  · rw [condition_none, built_fields]
  · intro condition own
    have truth := truth_condition own
    have values := values_condition own
    rw [built_fields] at truth values
    exact ⟨truth, values, fun clause compiled => WhereClause.arguments_compiled compiled⟩
  · intro others same β terminal installed
    rw [built_interleaved entity registry same]
    exact ⟨rfl, fun driver state => rfl⟩

def mixedSteps : List Step :=
  [.exclude (.any [.isNull "a", .compare .eq "b" (.int 1)]), .limit 3, .filter (.all [.compare .gt "c" (.int 2)]),
    .orderBy "-id", .limit 0, .filter (.not (.like "d" "x")), .offset 2]

def sortedSteps : List Step :=
  [.limit 0, .offset 9, .offset 2, .orderBy "-id", .filter (.all [.compare .gt "c" (.int 2)]), .filter (.not (.like "d" "x")),
    .exclude (.any [.isNull "a", .compare .eq "b" (.int 1)])]

/-- Where it is unknown whether a row is excluded, it is unknown whether it is meant. -/
theorem steps_collect_interleaved :
    Interleaved mixedSteps sortedSteps ∧
    ∃ condition, (built ⟨"T", .ok⟩ (some [⟨"t", "T", []⟩]) mixedSteps).condition = some condition ∧
      condition.truth (fun | .isNull _ => .unknown | .compare .gt _ _ => .yes | _ => .no) = .unknown ∧
      (∃ clause, WhereClause.ofCondition (some condition) = .ok clause ∧ clause.arguments = [.int 2, .text "x", .int 1]) ∧
      (Operation.fetchOnly (built ⟨"T", .ok⟩ (some [⟨"t", "T", []⟩]) mixedSteps) none).statements =
        (Operation.fetchOnly (built ⟨"T", .ok⟩ (some [⟨"t", "T", []⟩]) sortedSteps) none).statements := by
  have same : Interleaved mixedSteps sortedSteps := ⟨rfl, rfl, rfl, rfl, rfl⟩
  obtain ⟨-, collected, statements⟩ := steps_collect ⟨"T", .ok⟩ (some [⟨"t", "T", []⟩]) mixedSteps
  obtain ⟨truth, values, arguments⟩ := collected _ rfl
  exact ⟨same, _, rfl, truth _, ⟨_, rfl, (arguments _ rfl).trans values⟩, (statements _ same .get none).1⟩

end QuerySet

end Relmap
