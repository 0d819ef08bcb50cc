/-! Floating-point numbers of sixty-four bits, held as their bits so that equality is decidable and
exact. Integers and narrower floats convert by arithmetic on natural numbers. -/

namespace Relmap

structure Binary64 where
  bits : UInt64
  deriving DecidableEq, Inhabited

namespace Binary64

def isNegative (x : Binary64) : Bool := x.bits.toNat / Nat.pow 2 63 == 1

def exponentField (x : Binary64) : Nat := x.bits.toNat / Nat.pow 2 52 % Nat.pow 2 11

def fractionField (x : Binary64) : Nat := x.bits.toNat % Nat.pow 2 52

def isNaN (x : Binary64) : Bool := x.exponentField == 2047 && x.fractionField != 0

def isInfinite (x : Binary64) : Bool := x.exponentField == 2047 && x.fractionField == 0

def ofFields (negative : Bool) (exponent fraction : Nat) : Binary64 :=
  ⟨UInt64.ofNat ((if negative then Nat.pow 2 63 else 0) + exponent * Nat.pow 2 52 + fraction)⟩

/-- The quotient by a power of two, to nearest; a tie goes to the even neighbour. -/
def roundShift (value shift : Nat) : Nat :=
  let quotient := value / Nat.pow 2 shift
  let rest := 2 * (value % Nat.pow 2 shift)
  if rest > Nat.pow 2 shift || (rest == Nat.pow 2 shift && quotient % 2 == 1) then quotient + 1 else quotient

/-- The float nearest to an integer. The leading bit is the exponent's, so rounding up past the last
fraction carries into the exponent by itself. -/
def ofInt (n : Int) : Binary64 :=
  let magnitude := n.natAbs
  if magnitude == 0 then ⟨0⟩
  else
    let scale := magnitude.log2
    let significand := if scale ≤ 52 then magnitude * Nat.pow 2 (52 - scale) else roundShift magnitude (scale - 52)
    ofFields (n < 0) (1023 + scale) 0 |> fun x => ⟨x.bits + UInt64.ofNat (significand - Nat.pow 2 52)⟩

/-- Every float of thirty-two bits is one of sixty-four. -/
def ofBinary32 (bits : UInt32) : Binary64 :=
  let negative := bits.toNat / Nat.pow 2 31 == 1
  let exponent := bits.toNat / Nat.pow 2 23 % Nat.pow 2 8
  let fraction := bits.toNat % Nat.pow 2 23
  if exponent == 255 then ofFields negative 2047 (fraction * Nat.pow 2 29)
  else if exponent != 0 then ofFields negative (exponent + 896) (fraction * Nat.pow 2 29)
  else if fraction == 0 then ofFields negative 0 0
  else
    let scale := fraction.log2
    ofFields negative (scale + 874) (fraction * Nat.pow 2 (52 - scale) - Nat.pow 2 52)

end Binary64

end Relmap
