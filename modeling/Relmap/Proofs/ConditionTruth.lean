import Relmap.Proofs.CompiledConditions

/-! The logic of three truth values that conditions are evaluated in. A predicate on a null is neither
true nor false. -/

namespace Relmap

inductive Truth where
  | no
  | unknown
  | yes
  deriving DecidableEq

namespace Truth

def and : Truth → Truth → Truth
  | .no, _ | _, .no => .no
  | .unknown, _ | _, .unknown => .unknown
  | .yes, .yes => .yes

def or : Truth → Truth → Truth
  | .yes, _ | _, .yes => .yes
  | .unknown, _ | _, .unknown => .unknown
  | .no, .no => .no

def not : Truth → Truth
  | .no => .yes
  | .unknown => .unknown
  | .yes => .no

end Truth

def Combinator.truth : Combinator → List Truth → Truth
  | .and, operands => operands.foldr Truth.and .yes
  | .or, operands => operands.foldr Truth.or .no

@[simp] theorem Combinator.truth_single (combinator : Combinator) (only : Truth) : combinator.truth [only] = only := by
  cases combinator <;> cases only <;> rfl

namespace Condition

mutual

/-- The value of a condition when the predicates on single columns have the given values. -/
def truth (leaf : Condition → Truth) : Condition → Truth
  | .all operands => Combinator.and.truth (truths leaf operands)
  | .any operands => Combinator.or.truth (truths leaf operands)
  | .not operand => (truth leaf operand).not
  | .group operand => truth leaf operand
  | condition => leaf condition

def truths (leaf : Condition → Truth) : List Condition → List Truth
  | [] => []
  | operand :: rest => truth leaf operand :: truths leaf rest

end

variable (leaf : Condition → Truth)

theorem truth_node (combinator : Combinator) (operands : List Condition) :
    (combinator.node operands).truth leaf = combinator.truth (operands.map (truth leaf)) := by
  have each : truths leaf operands = operands.map (truth leaf) := by
    induction operands with
    | nil => rfl
    | cons operand operands ih => rw [truths, List.map_cons, ih]
  rw [← each]
  cases combinator <;> rfl

theorem truth_combined {combinator : Combinator} {operands : List Condition} {combined : Condition}
    (done : combine combinator operands = .ok combined) :
    combined.truth leaf = combinator.truth (operands.map (truth leaf)) := by
  rcases combine_ok.mp done with rfl | ⟨_, rfl⟩
  · exact (combinator.truth_single _).symm
  · exact truth_node leaf combinator operands

end Condition

end Relmap
