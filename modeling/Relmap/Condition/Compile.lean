import Relmap.Condition
import Relmap.Statement.Fragment

/-! From a condition to the fragment that stands after WHERE. Every operand of a conjunction, a
disjunction or a negation gets brackets, so no rule of precedence is ever relied on. -/

namespace Relmap

def Comparison.keyword : Comparison → Keyword
  | .eq => .equal
  | .ne => .unequal
  | .gt => .greater
  | .ge => .greaterEqual
  | .lt => .less
  | .le => .lessEqual

def Combinator.keyword : Combinator → Keyword
  | .and => .and
  | .or => .or

namespace Condition

def joined (combinator : Combinator) (operands : List Fragment) : Except ConditionError Fragment :=
  if operands.isEmpty then .error (.emptyCombinator combinator)
  else .ok (Fragment.separated combinator.keyword (operands.map Fragment.bracketed))

def slots (values : List Value) : Fragment :=
  Fragment.bracketed (Fragment.separated .listComma (values.map fun value => [.slot value]))

mutual

/-- Parts are compiled from left to right and the first error is the answer. -/
def fragment : Condition → Except ConditionError Fragment
  | .compare operator column value => .ok [.name column, .keyword operator.keyword, .slot value]
  | .like column pattern => .ok [.name column, .keyword .like, .slot (.text pattern)]
  | .inList column values =>
    if values.isEmpty then .error (.emptyInList column)
    else .ok (.name column :: .keyword .inList :: slots values)
  | .between column first last =>
    .ok [.name column, .keyword .between, .slot first, .keyword .and, .slot last]
  | .isNull column => .ok [.name column, .keyword .isNull]
  | .isNotNull column => .ok [.name column, .keyword .isNotNull]
  | .all operands => do joined .and (← fragments operands)
  | .any operands => do joined .or (← fragments operands)
  | .not operand => do return .keyword .not :: Fragment.bracketed (← operand.fragment)
  | .group operand => do return Fragment.bracketed (← operand.fragment)

def fragments : List Condition → Except ConditionError (List Fragment)
  | [] => .ok []
  | operand :: rest => do return (← operand.fragment) :: (← fragments rest)

end

end Condition

/-- A compiled condition without the word WHERE; no text when there is no condition. -/
structure WhereClause where
  sql : Option String
  arguments : List Value
  deriving DecidableEq

namespace WhereClause

def unfiltered : WhereClause := ⟨none, []⟩

def ofFragment (fragment : Fragment) : WhereClause := ⟨some fragment.text, fragment.arguments⟩

def ofCondition (condition : Option Condition) : Except ConditionError WhereClause :=
  match condition with
  | none => .ok unfiltered
  | some condition => return ofFragment (← condition.fragment)

end WhereClause

end Relmap
