import Relmap.Driver

/-! The database's side of a query that selects nothing but its own slots: each value comes back in
the class in which it was stored. -/

namespace Relmap

/-- Truth values are stored as integers, and a number that is none as null. -/
def Value.stored : Value → Cell
  | .null => .null
  | .bool flag => .integer (if flag then 1 else 0)
  | .int number => .integer number
  | .float number => if number.isNaN then .null else .real number
  | .text content => .text content
  | .blob bytes => .blob bytes

/-- A result has between one column and two thousand. Bindings past the slots of the query are
unused. -/
def echo (parameters : Nat) (bindings : Bindings) : Except DriverError (List StoredRow) :=
  if parameters == 0 then .error ⟨"incomplete input"⟩
  else if parameters > 2000 then .error ⟨"too many columns in result set"⟩
  else .ok [((bindings.slots parameters).take parameters).map Value.stored]

end Relmap
