import Relmap.QuerySet

/-! Diagnostic forms of conditions and queries, which show every part with its kind. -/

namespace Relmap

def inspectList (items : List String) : String := "[" ++ ", ".intercalate items ++ "]"

def inspectFlag (flag : Bool) : String := if flag then "true" else "false"

def inspectOption (item : Option String) : String := item.elim "None" fun text => "Some(" ++ text ++ ")"

def inspectTuple (name : String) (arguments : List String) : String :=
  name ++ "(" ++ ", ".intercalate arguments ++ ")"

def inspectRecord (name : String) (fields : List (String × String)) : String :=
  name ++ " \x7b " ++ ", ".intercalate (fields.map fun (field, value) => field ++ ": " ++ value) ++ " \x7d"

def Comparison.inspect : Comparison → String
  | .eq => "Eq"
  | .ne => "Ne"
  | .gt => "Gt"
  | .ge => "Ge"
  | .lt => "Lt"
  | .le => "Le"

namespace Condition

mutual

def inspect : Condition → String
  | .compare operator column value => inspectTuple operator.inspect [Text.literal column, value.inspect]
  | .like column pattern => inspectTuple "Like" [Text.literal column, Text.literal pattern]
  | .inList column values => inspectTuple "InList" [Text.literal column, inspectList (values.map Value.inspect)]
  | .between column first last =>
    inspectRecord "Between" [("column", Text.literal column), ("start", first.inspect), ("end", last.inspect)]
  | .isNull column => inspectTuple "IsNull" [Text.literal column]
  | .isNotNull column => inspectTuple "IsNotNull" [Text.literal column]
  | .all operands => inspectTuple "And" [inspectList (inspectAll operands)]
  | .any operands => inspectTuple "Or" [inspectList (inspectAll operands)]
  | .not operand => inspectTuple "Not" [operand.inspect]
  | .group operand => inspectTuple "Group" [operand.inspect]

def inspectAll : List Condition → List String
  | [] => []
  | operand :: rest => operand.inspect :: inspectAll rest

end

end Condition

def Order.inspect (order : Order) : String :=
  inspectRecord "OrderSpec" [("column", Text.literal order.column), ("ascending", inspectFlag order.ascending)]

/-- The registry is left out, which two points stand for. -/
def QuerySet.inspect {α : Type} (query : QuerySet α) : String :=
  let number := fun n : UInt64 => toString n.toNat
  "QuerySet \x7b type_id: " ++ Text.literal query.entity.typeId ++
    ", filters: " ++ inspectList (query.filters.map Condition.inspect) ++
    ", excludes: " ++ inspectList (query.excludes.map Condition.inspect) ++
    ", order_by: " ++ inspectList (query.order.map Order.inspect) ++
    ", limit: " ++ inspectOption (query.limit.map number) ++
    ", offset: " ++ inspectOption (query.offset.map number) ++ ", .. \x7d"

end Relmap
