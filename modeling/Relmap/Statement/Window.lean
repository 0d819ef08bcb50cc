/-! The part of a result that is asked for: how many rows at most, and how many to skip before them.
Both numbers are words of sixty-four bits. Arithmetic past their range stops at the largest one where
it is called saturating, and has no result where it is called checked. -/

namespace Relmap

def saturatingMul (first second : UInt64) : UInt64 :=
  if first.toNat * second.toNat < UInt64.size then first * second else 18446744073709551615

def saturatingAdd (first second : UInt64) : UInt64 :=
  if first.toNat + second.toNat < UInt64.size then first + second else 18446744073709551615

/-- The largest signed word stands for every number past it. -/
def saturatingSigned (n : UInt64) : Int64 :=
  if n.toNat < 0x8000000000000000 then Int64.ofInt n.toNat else Int64.maxValue

/-- What stops a program in the middle of its arithmetic. -/
inductive WordFault where
  | zeroDivisor
  | overflow
  deriving DecidableEq

def WordFault.message : WordFault → String
  | .zeroDivisor => "attempt to divide by zero"
  | .overflow => "attempt to add with overflow"

def checkedDiv (first second : UInt64) : Except WordFault UInt64 :=
  if second = 0 then .error .zeroDivisor else .ok (first / second)

def checkedAdd (first second : UInt64) : Except WordFault UInt64 :=
  if first.toNat + second.toNat < UInt64.size then .ok (first + second) else .error .overflow

/-- A number below 1 counts as 1. -/
def clampPositive (n : Int64) : UInt64 := if 1 ≤ n.toInt then UInt64.ofNat n.toInt.toNat else 1

structure Window where
  limit : UInt64
  offset : UInt64
  deriving DecidableEq

namespace Window

/-- At least one row is asked for. -/
def of (limit offset : UInt64) : Window := ⟨max limit 1, offset⟩

def first (limit : UInt64) : Window := of limit 0

/-- Pages are numbered from 1. -/
def page (page size : Int64) : Window :=
  let size := clampPositive size
  ⟨size, saturatingMul (clampPositive page - 1) size⟩

/-- The number of the page that begins at the offset. A window of no rows is numbered as if it had one. -/
def number (window : Window) : Except WordFault UInt64 := do
  checkedAdd (← checkedDiv window.offset (max window.limit 1)) 1

/-- With a total, another page follows if this one ends before it; without one, if this one is full. -/
def hasNext (window : Window) (fetched : UInt64) (total : Option UInt64) : Bool :=
  match total with
  | some total => saturatingAdd window.offset fetched < total
  | none => window.limit > 0 && fetched == window.limit

end Window

end Relmap
