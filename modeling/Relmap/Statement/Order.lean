/-! The order in which rows are returned. -/

namespace Relmap

structure Order where
  column : String
  ascending : Bool
  deriving DecidableEq

namespace Order

/-- A leading minus asks for descending order and is not part of the name. -/
def parse (spec : String) : Order :=
  match spec.toList with
  | '-' :: column => ⟨String.ofList column, false⟩
  | _ => ⟨spec, true⟩

def direction (order : Order) : String := if order.ascending then "ASC" else "DESC"

end Order

end Relmap
