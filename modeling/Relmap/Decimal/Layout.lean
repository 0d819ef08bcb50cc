import Relmap.Decimal.Shortest

/-! How the digits of a float are laid out. Two formats exist: the plain one never uses an exponent
and the marked one always shows that the number is a float. -/

namespace Relmap

structure Decimal.Layout where
  /-- Whether a whole number is followed by a point and a zero. -/
  pointZero : Bool
  /-- Whether very large and very small numbers are written with an exponent. -/
  exponents : Bool

namespace Decimal

/-- Values and statements for a reader: `2`, `0.00001`, `1000000000000000000000`. -/
def Layout.plain : Layout := ⟨false, false⟩

/-- Diagnostic forms: `2.0`, `1e-5`, `1e21`. -/
def Layout.marked : Layout := ⟨true, true⟩

/-- The decimal point stands after `point` digits, counted from the first one. -/
def positional (layout : Layout) (digits : List Char) (point : Int) : List Char :=
  if point ≤ 0 then ['0', '.'] ++ List.replicate (-point).toNat '0' ++ digits
  else if digits.length ≤ point.toNat then
    digits ++ List.replicate (point.toNat - digits.length) '0' ++ (if layout.pointZero then ['.', '0'] else [])
  else digits.take point.toNat ++ '.' :: digits.drop point.toNat

/-- One digit stands before the point, and the exponent carries a sign only when negative. -/
def scientific (digits : List Char) (exponent : Int) : List Char :=
  let fraction := digits.drop 1
  digits.take 1 ++ (if fraction.isEmpty then [] else '.' :: fraction) ++
    'e' :: (if exponent < 0 then ['-'] else []) ++ Nat.toDigits 10 exponent.natAbs

/-- Numbers from `10 ^ 16` on and numbers below `10 ^ -4` take an exponent where the format has
them. -/
def layOut (layout : Layout) (x : Decimal) : List Char :=
  let digits := Nat.toDigits 10 x.digits
  let point := x.exponent + digits.length
  if layout.exponents && x.digits != 0 && (point > 16 || point < -3) then scientific digits (point - 1)
  else if x.digits == 0 then '0' :: (if layout.pointZero then ['.', '0'] else [])
  else positional layout digits point

end Decimal

namespace Binary64

/-- The sign of zero is kept; a number that is none has no sign. -/
def write (layout : Decimal.Layout) (x : Binary64) : List Char :=
  if x.isNaN then ['N', 'a', 'N']
  else
    (if x.isNegative then ['-'] else []) ++
      if x.isInfinite then ['i', 'n', 'f'] else Decimal.layOut layout (Decimal.shortest x.magnitude)

def plain (x : Binary64) : String := String.ofList (x.write .plain)

def marked (x : Binary64) : String := String.ofList (x.write .marked)

end Binary64

end Relmap
