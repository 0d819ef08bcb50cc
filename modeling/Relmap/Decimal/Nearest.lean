import Relmap.Decimal.Layout

/-! From decimals to floats and back to decimals of so many digits. Both ways round to the nearest;
a float that is half-way goes to the even neighbour, a decimal that is half-way goes up. -/

namespace Relmap

namespace Binary64

def infinite (negative : Bool) : Binary64 := ofFields negative 2047 0

/-- The quotient of two numbers to nearest; a tie goes to the even neighbour. -/
def roundQuotient (value divisor : Nat) : Nat :=
  let quotient := value / divisor
  let rest := 2 * (value % divisor)
  if rest > divisor || (rest == divisor && quotient % 2 == 1) then quotient + 1 else quotient

/-- Multiples of the least positive float of a scale, chosen such that they fill the significand.
Rounding up past the last fraction carries into the exponent by itself. -/
def ofQuotient (negative : Bool) (value divisor : Nat) : Binary64 :=
  let multiples := fun scale : Int =>
    roundQuotient (value * Nat.pow 2 (-scale).toNat) (divisor * Nat.pow 2 scale.toNat)
  let isShort := fun scale : Int =>
    value * Nat.pow 2 (-scale).toNat < divisor * Nat.pow 2 scale.toNat * Nat.pow 2 52
  let estimate := (value.log2 : Int) - divisor.log2 - 52
  let scale := max (-1074) (if isShort estimate then estimate - 1 else estimate)
  let bits := (scale + 1074).toNat * Nat.pow 2 52 + multiples scale
  if 2047 * Nat.pow 2 52 ≤ bits then infinite negative
  else ⟨UInt64.ofNat ((if negative then Nat.pow 2 63 else 0) + bits)⟩

/-- The float nearest to a decimal. Beyond the range of floats the digits need not be looked at. -/
def ofDecimal (negative : Bool) (x : Decimal) : Binary64 :=
  let length := (Nat.toDigits 10 x.digits).length + x.exponent
  if x.digits == 0 || length < -330 then ofFields negative 0 0
  else if 310 < length then infinite negative
  else ofQuotient negative (x.digits * Nat.pow 10 x.exponent.toNat) (Nat.pow 10 (-x.exponent).toNat)

def toInt? (x : Binary64) : Option Int :=
  let ⟨significand, exponent, _⟩ := x.magnitude
  let divisor := Nat.pow 2 (-exponent).toNat
  if x.isNaN || x.isInfinite || significand % divisor != 0 then none
  else
    let magnitude : Nat := significand * Nat.pow 2 exponent.toNat / divisor
    some (if x.isNegative then -magnitude else magnitude)

def truncated (x : Binary64) : Int :=
  let ⟨significand, exponent, _⟩ := x.magnitude
  let magnitude : Nat := significand * Nat.pow 2 exponent.toNat / Nat.pow 2 (-exponent).toNat
  if x.isNegative then -magnitude else magnitude

def negated (x : Binary64) : Binary64 := ofFields (!x.isNegative) x.exponentField x.fractionField

end Binary64

namespace Decimal

def nearest (x : Magnitude) (count : Nat) : Decimal :=
  if x.significand == 0 then ⟨0, 0⟩
  else
    let grid := scale x - count
    let below := countBelow x grid
    strip 400 ⟨if nearerUpper x below grid then below + 1 else below, grid⟩

end Decimal

end Relmap
