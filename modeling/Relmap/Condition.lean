import Relmap.Value

/-! Conditions on the rows of a table, and the builders that callers write them with. A builder that
can see its operands are wrong refuses at once; the rest is found out when the condition is
compiled. -/

namespace Relmap

inductive Comparison where
  | eq
  | ne
  | gt
  | ge
  | lt
  | le
  deriving DecidableEq

inductive Condition where
  | compare (operator : Comparison) (column : String) (value : Value)
  | like (column pattern : String)
  | inList (column : String) (values : List Value)
  | between (column : String) (first last : Value)
  | isNull (column : String)
  | isNotNull (column : String)
  | all (operands : List Condition)
  | any (operands : List Condition)
  | not (operand : Condition)
  /-- The same condition inside brackets of its own. -/
  | group (operand : Condition)
  deriving Inhabited

inductive Combinator where
  | and
  | or
  deriving DecidableEq

def Combinator.name : Combinator → String
  | .and => "and"
  | .or => "or"

inductive ConditionError where
  | emptyInList (column : String)
  | betweenArity (column : String) (count : Nat)
  | emptyCombinator (combinator : Combinator)
  deriving DecidableEq

def ConditionError.message : ConditionError → String
  | .emptyInList column => "IN list for column '" ++ column ++ "' is empty"
  | .betweenArity column count =>
    "BETWEEN on column '" ++ column ++ "' needs exactly 2 bounds, got " ++ toString count
  | .emptyCombinator combinator => combinator.name ++ "() requires at least one expression"

def Combinator.node : Combinator → List Condition → Condition
  | .and => .all
  | .or => .any

namespace Condition

/-- A pattern that matches what begins with the text. Wildcards inside the text stay wildcards. -/
def startsWith (column text : String) : Condition := .like column (text ++ "%")

def endsWith (column text : String) : Condition := .like column ("%" ++ text)

def contains (column text : String) : Condition := .like column ("%" ++ text ++ "%")

def tryInList (column : String) (values : List Value) : Except ConditionError Condition :=
  if values.isEmpty then .error (.emptyInList column) else .ok (.inList column values)

def betweenBounds (column : String) (bounds : List Value) : Except ConditionError Condition :=
  match bounds with
  | [first, last] => .ok (.between column first last)
  | _ => .error (.betweenArity column bounds.length)

/-- A conjunction on the left takes the new operand in, so chains stay flat. -/
def and (left right : Condition) : Condition :=
  match left with
  | .all operands => .all (operands ++ [right])
  | _ => .all [left, right]

/-- A disjunction on the left takes the new operand in, so chains stay flat. -/
def or (left right : Condition) : Condition :=
  match left with
  | .any operands => .any (operands ++ [right])
  | _ => .any [left, right]

/-- One operand alone needs no node around it, and none at all is refused. -/
def combine (combinator : Combinator) (operands : List Condition) : Except ConditionError Condition :=
  match operands with
  | [] => .error (.emptyCombinator combinator)
  | [operand] => .ok operand
  | _ => .ok (combinator.node operands)

def allOf : List Condition → Except ConditionError Condition := combine .and

def anyOf : List Condition → Except ConditionError Condition := combine .or

end Condition

end Relmap
