import Relmap.Proofs.ConditionGrammar

/-! A condition is determined by its text and its arguments, up to what brackets cannot show: whether
they stand around a group or around the only operand of a combination. -/

namespace Relmap

/-- Operands under one node. A single operand is a group. -/
def Combinator.regroup (combinator : Combinator) : List Condition → Condition
  | [only] => .group only
  | operands => combinator.node operands

namespace Condition

mutual

/-- The condition with a group in place of each combination of one operand. -/
def regrouped : Condition → Condition
  | .all operands => Combinator.and.regroup (regroupedEach operands)
  | .any operands => Combinator.or.regroup (regroupedEach operands)
  | .not operand => .not operand.regrouped
  | .group operand => .group operand.regrouped
  | condition => condition

def regroupedEach : List Condition → List Condition
  | [] => []
  | operand :: rest => operand.regrouped :: regroupedEach rest

end

def opened : Condition → Condition
  | .group operand => operand
  | condition => condition

mutual

/-- The condition without the brackets that stand directly around operands. -/
def relaxed : Condition → Condition
  | .all operands => .all (relaxedEach operands)
  | .any operands => .any (relaxedEach operands)
  | .not operand => .not operand.relaxed.opened
  | .group operand => .group operand.relaxed
  | condition => condition

def relaxedEach : List Condition → List Condition
  | [] => []
  | operand :: rest => operand.relaxed.opened :: relaxedEach rest

end

theorem regrouped_node (combinator : Combinator) (operands : List Condition) :
    (combinator.node operands).regrouped = combinator.regroup (operands.map regrouped) := by
  have each : regroupedEach operands = operands.map regrouped := by
    induction operands with
    | nil => rfl
    | cons operand operands ih => rw [regroupedEach, List.map_cons, ih]
  rw [← each]
  cases combinator <;> rfl

private theorem relaxed_node (combinator : Combinator) (operands : List Condition) :
    (combinator.node operands).relaxed = combinator.node (operands.map fun operand => operand.relaxed.opened) := by
  have each : relaxedEach operands = operands.map fun operand => operand.relaxed.opened := by
    induction operands with
    | nil => rfl
    | cons operand operands ih => rw [relaxedEach, List.map_cons, ih]
  rw [← each]
  cases combinator <;> rfl

theorem relaxed_written (condition : Condition) : condition.written.relaxed = condition.regrouped := by
  induction condition using Condition.induction with
  | leaf condition isLeaf => cases condition <;> first | rfl | contradiction
  | node combinator operands ih =>
    have each : ∀ operand ∈ operands, (Condition.group operand.written).relaxed.opened = operand.regrouped := ih
    rw [written_node, regrouped_node]
    match operands with
    | [] => cases combinator <;> rfl
    | [only] => exact congrArg Condition.group (ih only (by simp))
    | first :: second :: rest =>
      change (combinator.node ((first :: second :: rest).map fun operand => .group operand.written)).relaxed =
        combinator.node ((first :: second :: rest).map regrouped)
      rw [relaxed_node, List.map_map]
      exact congrArg combinator.node (List.map_congr_left each)
  | not operand ih => exact congrArg Condition.not ih
  | group operand ih => exact congrArg Condition.group ih

private theorem fragment_not {operand : Condition} {part : Fragment} (compiled : operand.fragment = .ok part) :
    (Condition.not operand).fragment = .ok (.keyword .not :: Fragment.bracketed part) := by
  rw [fragment, compiled]
  rfl

theorem fragment_group {operand : Condition} {part : Fragment} (compiled : operand.fragment = .ok part) :
    (Condition.group operand).fragment = .ok (Fragment.bracketed part) := by
  rw [fragment, compiled]
  rfl

/-- Groups are written as the brackets that the only operand of a combination stands in. -/
theorem fragment_regrouped {condition : Condition} {part : Fragment} (compiled : condition.fragment = .ok part) :
    condition.regrouped.fragment = .ok part := by
  refine compiled_induction (motive := fun condition part => condition.regrouped.fragment = .ok part)
    ?compare ?like ?inList ?between ?isNull ?isNotNull ?node ?not ?group compiled
  case inList =>
    intro column values nonempty
    cases values with
    | nil => contradiction
    | cons => rfl
  case node =>
    intro combinator operands parts nonempty each
    rw [regrouped_node]
    cases each with
    | nil => contradiction
    | @cons operand part operands parts own others =>
      cases others with
      | nil => exact fragment_group own
      | @cons operand' part' operands parts own' others =>
        have each : List.Forall₂ (fun operand part => operand.regrouped.fragment = Except.ok part)
            (operand :: operand' :: operands) (part :: part' :: parts) := .cons own (.cons own' others)
        change (combinator.node ((operand :: operand' :: operands).map regrouped)).fragment = _
        exact node_ok.mpr ⟨by simp, _, List.forall₂_map_left_iff.mpr each, rfl⟩
  case not =>
    intro operand part own
    exact fragment_not own
  case group =>
    intro operand part own
    exact fragment_group own
  all_goals
    intros
    rfl

private theorem truth_written (leaf : Condition → Truth) (condition : Condition) :
    condition.written.truth leaf = condition.truth leaf := by
  induction condition using Condition.induction with
  | leaf condition isLeaf => rw [written_leaf isLeaf]
  | node combinator operands ih =>
    have each : ∀ operand ∈ operands, (Condition.group operand.written).truth leaf = operand.truth leaf := ih
    rw [written_node, truth_node]
    match operands with
    | [] => cases combinator <;> rfl
    | [only] => exact (each only (by simp)).trans (combinator.truth_single _).symm
    | first :: second :: rest =>
      change (combinator.node ((first :: second :: rest).map fun operand => .group operand.written)).truth leaf = _
      rw [truth_node, List.map_map]
      exact congrArg combinator.truth (List.map_congr_left each)
  | not operand ih => exact congrArg Truth.not ih
  | group operand ih => exact ih

end Condition

namespace WhereClause

theorem ofCondition_ok {condition : Condition} {clause : WhereClause} :
    ofCondition (some condition) = .ok clause ↔ ∃ part, condition.fragment = .ok part ∧ clause = ofFragment part := by
  simp only [ofCondition, bind_eq_ok, pure, Except.pure, Except.ok.injEq]
  simp only [eq_comm]

theorem ofCondition_complete {condition : Condition} :
    condition.complete = true ↔ ∃ clause, ofCondition (some condition) = .ok clause := by
  rw [Condition.complete_iff]
  constructor
  · intro ⟨part, compiled⟩
    exact ⟨ofFragment part, ofCondition_ok.mpr ⟨part, compiled, rfl⟩⟩
  · intro ⟨clause, compiled⟩
    obtain ⟨part, own, _⟩ := ofCondition_ok.mp compiled
    exact ⟨part, own⟩

theorem arguments_compiled {condition : Condition} {clause : WhereClause}
    (compiled : ofCondition (some condition) = .ok clause) : clause.arguments = condition.values := by
  obtain ⟨part, own, rfl⟩ := ofCondition_ok.mp compiled
  exact (Condition.compiled_order own).1

/-- A compiled condition is read back from its text and its arguments with the same predicates, the same
combinations and the same value, and only brackets around operands are added. Two conditions share text
and arguments exactly if they differ in nothing but groups that are written as combinations of one
operand. -/
theorem reads_back {condition : Condition} {clause : WhereClause} (compiled : ofCondition (some condition) = .ok clause) :
    (∃ sql result, clause.sql = some sql ∧ Condition.read sql clause.arguments = some result ∧
      result.relaxed = condition.regrouped ∧ ∀ leaf, result.truth leaf = condition.truth leaf) ∧
    ∀ other otherClause, ofCondition (some other) = .ok otherClause →
      (clause = otherClause ↔ condition.regrouped = other.regrouped) := by
  obtain ⟨part, own, rfl⟩ := ofCondition_ok.mp compiled
  have result := Condition.read_compiled own
  refine ⟨⟨part.text, condition.written, rfl, result, condition.relaxed_written, fun leaf => condition.truth_written leaf⟩, ?_⟩
  intro other otherClause otherCompiled
  obtain ⟨otherPart, otherOwn, rfl⟩ := ofCondition_ok.mp otherCompiled
  have otherResult := Condition.read_compiled otherOwn
  constructor
  · intro same
    have text : part.text = otherPart.text := Option.some.inj (congrArg WhereClause.sql same)
    have arguments : part.arguments = otherPart.arguments := congrArg WhereClause.arguments same
    rw [text, arguments, otherResult] at result
    have written := Option.some.inj result
    rw [← condition.relaxed_written, ← other.relaxed_written, written]
  · intro same
    have regrouped := Condition.fragment_regrouped own
    rw [same, Condition.fragment_regrouped otherOwn] at regrouped
    rw [Except.ok.inj regrouped]

/-- Names may look like parts of the language: none of them is taken for one. -/
theorem reads_back_quoted :
    ∃ result, Condition.read "(NOT ((\"a\"\"? OR\" = ?) OR (\") AND (\" IS NULL))) AND (\"b\" BETWEEN ? AND ?)"
        [.int 1, .null, .text "?"] = some result ∧
      result.relaxed = .all [.not (.any [.compare .eq "a\"? OR" (.int 1), .isNull ") AND ("]), .between "b" .null (.text "?")] := by
  have compiled : ofCondition
      (some (.all [.not (.any [.compare .eq "a\"? OR" (.int 1), .isNull ") AND ("]), .between "b" .null (.text "?")])) =
        .ok ⟨some "(NOT ((\"a\"\"? OR\" = ?) OR (\") AND (\" IS NULL))) AND (\"b\" BETWEEN ? AND ?)",
          [.int 1, .null, .text "?"]⟩ := by decide
  obtain ⟨⟨sql, result, ⟨⟩, read, relaxed, _⟩, _⟩ := reads_back compiled
  exact ⟨result, read, relaxed⟩

end WhereClause

end Relmap
