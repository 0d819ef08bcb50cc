import Relmap.Decimal.Binary64

/-! The fewest decimal digits that read back to the same float. The search runs over exact natural
numbers: a float is a multiple of a power of two, and the reals that round to it form an interval.
-/

namespace Relmap

structure Magnitude where
  significand : Nat
  exponent : Int
  /-- The gap to the value below is half the gap to the value above. -/
  narrowBelow : Bool

def Binary64.magnitude (x : Binary64) : Magnitude :=
  if x.exponentField == 0 then ⟨x.fractionField, -1074, false⟩
  else ⟨Nat.pow 2 52 + x.fractionField, x.exponentField - 1075, x.fractionField == 0 && x.exponentField > 1⟩

structure Decimal where
  digits : Nat
  exponent : Int

namespace Decimal

/-- Compares `count * 10 ^ tens` with `other * 2 ^ twos` without rounding. -/
def compareScaled (count : Nat) (tens : Int) (other : Nat) (twos : Int) : Ordering :=
  compare (count * Nat.pow 10 tens.toNat * Nat.pow 2 (-twos).toNat)
    (other * Nat.pow 2 twos.toNat * Nat.pow 10 (-tens).toNat)

/-- The ends of the interval lie half-way to the neighbours and belong to it when the significand is
even, because a tie in reading goes to the even neighbour. -/
def readsBack (x : Magnitude) (candidate : Decimal) : Bool :=
  let lower := if x.narrowBelow then 4 * x.significand - 1 else 4 * x.significand - 2
  let upper := 4 * x.significand + 2
  let closed := x.significand % 2 == 0
  let fromLower := compareScaled candidate.digits candidate.exponent lower (x.exponent - 2)
  let fromUpper := compareScaled candidate.digits candidate.exponent upper (x.exponent - 2)
  (fromLower == .gt || (closed && fromLower == .eq)) && (fromUpper == .lt || (closed && fromUpper == .eq))

/-- How many multiples of `10 ^ grid` lie at or below the value. -/
def countBelow (x : Magnitude) (grid : Int) : Nat :=
  (x.significand * Nat.pow 2 x.exponent.toNat * Nat.pow 10 (-grid).toNat)
    / (Nat.pow 2 (-x.exponent).toNat * Nat.pow 10 grid.toNat)

/-- Twice the value against the sum of a grid point and the next one: a value half-way between them
counts as nearer to the upper one. -/
def nearerUpper (x : Magnitude) (below : Nat) (grid : Int) : Bool :=
  compareScaled (2 * below + 1) grid (2 * x.significand) x.exponent != .gt

/-- Of the two grid points around the value, the nearer one that reads back. -/
def onGrid (x : Magnitude) (grid : Int) : Option Decimal :=
  let below := countBelow x grid
  let candidates := if nearerUpper x below grid then [below + 1, below] else [below, below + 1]
  (candidates.map fun count => ⟨count, grid⟩).find? (readsBack x)

/-- The least power of ten above the value, found from its binary length and corrected exactly. -/
def scale (x : Magnitude) : Int :=
  let estimate := ((x.significand.log2 : Int) + x.exponent) * 1233 / 4096 - 1
  let above := fun tens : Int => compareScaled 1 tens x.significand x.exponent == .gt
  (List.range 5).foldl (fun tens _ => if above tens then tens else tens + 1) estimate

/-- Zeros at the end of the digits move into the exponent. -/
def strip : Nat → Decimal → Decimal
  | 0, x => x
  | steps + 1, x =>
    if x.digits % 10 == 0 && x.digits != 0 then strip steps ⟨x.digits / 10, x.exponent + 1⟩ else x

/-- The coarsest grid with a point that reads back decides. Seventeen digits always suffice; past
them the value itself is a decimal. -/
def shortest (x : Magnitude) : Decimal :=
  if x.significand == 0 then ⟨0, 0⟩
  else
    let top := scale x
    let exact :=
      ⟨x.significand * Nat.pow 2 x.exponent.toNat * Nat.pow 5 (-x.exponent).toNat, min x.exponent 0⟩
    let found := (List.range 17).findSome? fun (n : Nat) => onGrid x (top - (n + 1 : Nat))
    strip 400 (found.getD exact)

end Decimal

end Relmap
