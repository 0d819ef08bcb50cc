import Relmap.Proofs.ConditionChains
import Relmap.Proofs.ConditionFaults

/-! Conditions from builders that refuse what they cannot use. Once every call has accepted its operands, nothing is
left for the compilation to refuse. -/

namespace Relmap

namespace Condition

/-- A condition from builders that look at their operands, put together by calls in any number and at any depth, each of
which accepted what it was given. -/
inductive Checked : Condition → Prop where
  | compare (operator : Comparison) (column : String) (value : Value) : Checked (.compare operator column value)
  | like (column pattern : String) : Checked (.like column pattern)
  | startsWith (column text : String) : Checked (startsWith column text)
  | endsWith (column text : String) : Checked (endsWith column text)
  | contains (column text : String) : Checked (contains column text)
  | between (column : String) (first last : Value) : Checked (.between column first last)
  | isNull (column : String) : Checked (.isNull column)
  | isNotNull (column : String) : Checked (.isNotNull column)
  | tryInList {column : String} {values : List Value} {condition : Condition}
    (accepted : tryInList column values = .ok condition) : Checked condition
  | betweenBounds {column : String} {bounds : List Value} {condition : Condition}
    (accepted : betweenBounds column bounds = .ok condition) : Checked condition
  | allOf {operands : List Condition} {condition : Condition} (each : ∀ operand ∈ operands, Checked operand)
    (accepted : allOf operands = .ok condition) : Checked condition
  | anyOf {operands : List Condition} {condition : Condition} (each : ∀ operand ∈ operands, Checked operand)
    (accepted : anyOf operands = .ok condition) : Checked condition
  | and {left right : Condition} (first : Checked left) (second : Checked right) : Checked (left.and right)
  | or {left right : Condition} (first : Checked left) (second : Checked right) : Checked (left.or right)
  | not {operand : Condition} (own : Checked operand) : Checked (.not operand)
  | group {operand : Condition} (own : Checked operand) : Checked (.group operand)

/-- A list of values without values, or a combination of nothing. -/
def Vacant (condition : Condition) : Prop :=
  (∃ column, condition = .inList column []) ∨ condition = .all [] ∨ condition = .any []

private theorem complete_tryInList {column : String} {values : List Value} {condition : Condition}
    (accepted : tryInList column values = .ok condition) : condition.complete = true := by
  cases values with
  | nil => contradiction
  | cons value values =>
    cases accepted
    rfl

private theorem complete_betweenBounds {column : String} {bounds : List Value} {condition : Condition}
    (accepted : betweenBounds column bounds = .ok condition) : condition.complete = true := by
  match bounds with
  | [first, last] =>
    cases accepted
    rfl
  | [] | [_] | _ :: _ :: _ :: _ => contradiction

/-- Each builder keeps conditions complete, whether it takes its operands into a new node or into one that is there. -/
theorem Checked.complete {condition : Condition} (checked : Checked condition) : condition.complete = true := by
  induction checked with
  | compare | like | startsWith | endsWith | contains | between | isNull | isNotNull => rfl
  | tryInList accepted => exact complete_tryInList accepted
  | betweenBounds accepted => exact complete_betweenBounds accepted
  | allOf _ accepted each | anyOf _ accepted each => exact complete_combined accepted each
  | and _ _ first second => exact Combinator.and.complete_attach first second
  | or _ _ first second => exact Combinator.or.complete_attach first second
  | not _ own | group _ own => exact own

theorem complete_filled {condition : Condition} : condition.complete = true ↔ ∀ node ∈ condition.nodes, ¬ node.Vacant := by
  have faulty := condition.fault?_isSome
  rw [complete_iff]
  constructor
  · rintro ⟨part, compiled⟩ node member empty
    obtain ⟨error, fault⟩ := Option.isSome_iff_exists.mp (faulty.mpr ⟨node, member, empty⟩)
    rw [fragment_error.mpr fault] at compiled
    contradiction
  · intro filled
    have decided := condition.fragment_decided
    cases fault : condition.fault? with
    | none =>
      rw [fault] at decided
      exact decided
    | some error =>
      rw [fault] at faulty
      obtain ⟨node, member, empty⟩ := faulty.mp rfl
      exact absurd empty (filled node member)

/-- A complete condition compiles to a text with something in it and to its values. -/
theorem complete_sql {condition : Condition} : condition.complete = true ↔
    ∃ sql, sql ≠ "" ∧ WhereClause.ofCondition (some condition) = .ok ⟨some sql, condition.values⟩ := by
  constructor
  · intro complete
    obtain ⟨part, compiled⟩ := complete_iff.mp complete
    refine ⟨part.text, ?_, ?_⟩
    · intro empty
      have visible := visible_compiled compiled
      rw [empty] at visible
      contradiction
    · rw [WhereClause.ofCondition_ok]
      refine ⟨part, compiled, ?_⟩
      rw [WhereClause.ofFragment, (compiled_order compiled).1]
  · rintro ⟨sql, _, compiled⟩
    exact WhereClause.ofCondition_complete.mpr ⟨_, compiled⟩

/-- A condition compiles to a text that is not empty exactly if no list of values and no combination in it is empty, and
so does every condition from builders that accepted their operands, however deep they are nested. -/
theorem checked_compiles :
    (∀ condition : Condition,
      (∃ sql, sql ≠ "" ∧ WhereClause.ofCondition (some condition) = .ok ⟨some sql, condition.values⟩) ↔
        ∀ node ∈ condition.nodes, ¬ node.Vacant) ∧
    ∀ condition : Condition, Checked condition →
      (∃ sql, sql ≠ "" ∧ WhereClause.ofCondition (some condition) = .ok ⟨some sql, condition.values⟩) ∧
        ∀ node ∈ condition.nodes, ¬ node.Vacant := by
  constructor
  · intro condition
    rw [← complete_sql, complete_filled]
  · intro condition checked
    exact ⟨complete_sql.mp checked.complete, complete_filled.mp checked.complete⟩

/-- A single operand of a combination stays as it is, and the conjunction that it is takes in the next condition. -/
theorem checked_compiles_absorbing :
    Checked (.not (.all [.like "a" "x%", .inList "b" [.int 1], .between "c" (.int 2) (.int 3)])) ∧
    ∃ sql, sql ≠ "" ∧ WhereClause.ofCondition
      (some (.not (.all [.like "a" "x%", .inList "b" [.int 1], .between "c" (.int 2) (.int 3)]))) =
        .ok ⟨some sql, [.text "x%", .int 1, .int 2, .int 3]⟩ := by
  have list : Checked (.inList "b" [.int 1]) := .tryInList (show tryInList "b" [.int 1] = .ok _ from rfl)
  have bounds : Checked (.between "c" (.int 2) (.int 3)) :=
    .betweenBounds (show betweenBounds "c" [.int 2, .int 3] = .ok _ from rfl)
  have pair : Checked (.all [.like "a" "x%", .inList "b" [.int 1]]) := .and (.startsWith "a" "x") list
  have single : Checked (.all [.like "a" "x%", .inList "b" [.int 1]]) :=
    .anyOf (List.forall_mem_singleton.mpr pair) rfl
  have checked : Checked (.not (.all [.like "a" "x%", .inList "b" [.int 1], .between "c" (.int 2) (.int 3)])) :=
    .not (.and single bounds)
  exact ⟨checked, (checked_compiles.2 _ checked).1⟩

end Condition

end Relmap
