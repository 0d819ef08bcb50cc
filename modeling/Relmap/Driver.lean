import Relmap.Cell

/-! Storage as a query sees it. A driver answers a text, the number of its slots and the bindings of
these slots, and may change its state; nothing else passes between the two sides. -/

namespace Relmap

inductive Bound where
  | null
  | long (number : Int64)
  | double (number : Binary64)
  | string (content : String)
  | bytes (content : Bytes)
  deriving DecidableEq

/-- Drivers know no truth values: true is the integer 1 and false the integer 0. -/
def Value.bound : Value → Bound
  | .null => .null
  | .bool flag => .long (if flag then 1 else 0)
  | .int number => .long number
  | .float number => .double number
  | .text content => .string content
  | .blob bytes => .bytes bytes

def Bound.value : Bound → Value
  | .null => .null
  | .long number => .int number
  | .double number => .float number
  | .string content => .text content
  | .bytes content => .blob content

/-- A slot's index, from 0, and what is bound there, in the order in which the bindings are made. With an index or a
number of slots past what a vector can hold the program panics; a list has no such bound, and runs of that kind are left
out. -/
abbrev Bindings := List (Nat × Bound)

/-- Each argument goes to the slot of its own position. -/
def bindings (arguments : List Value) : Bindings :=
  arguments.zipIdx.map fun (value, index) => (index, value.bound)

namespace Bindings

/-- A binding past the last slot makes room for itself, and the slots between stay null. -/
def assign (slots : List Value) (index : Nat) (value : Value) : List Value :=
  (slots ++ List.replicate (index + 1 - slots.length) Value.null).set index value

/-- The arguments that a database holds after all bindings: unbound slots are null and the last
binding of a slot wins. -/
def slots (parameters : Nat) (bindings : Bindings) : List Value :=
  bindings.foldl (fun slots (index, bound) => assign slots index bound.value)
    (List.replicate parameters Value.null)

end Bindings

/-- A driver reports a failure by its text only. -/
structure DriverError where
  message : String
  deriving DecidableEq

/-- The two kinds of request over a state `σ`: rows are asked for, or a change and its extent. -/
structure Driver (σ : Type) where
  query : String → Nat → Bindings → StateM σ (Except DriverError (List StoredRow))
  statement : String → Nat → Bindings → StateM σ (Except DriverError UInt64)

/-- A computation that sends requests to a driver with state `σ`. The state survives an error. -/
abbrev Exchange (ε σ : Type) := ExceptT ε (StateM σ)

end Relmap
