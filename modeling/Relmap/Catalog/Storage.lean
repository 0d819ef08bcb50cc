import Relmap.Affinity
import Relmap.Catalog.Number

/-! How values are kept in columns. The affinity of a column changes a value where nothing is lost
by it, and two values are the same if they are equal as numbers or equal within one class. -/

namespace Relmap.Catalog

/-- A float becomes the integer that it equals. The least integer is left out, because a float that
is too small for a word would become it as well. -/
def narrowed : Cell → Cell
  | .real number =>
    match number.toInt?.bind integer? with
    | some (.integer whole) => if whole == Int64.minValue then .real number else .integer whole
    | _ => .real number
  | cell => cell

def numeric : Cell → Cell
  | .text content => ((number? content.toList).map narrowed).getD (.text content)
  | cell => narrowed cell

def widened : Cell → Cell
  | .integer number => .real (.ofInt number.toInt)
  | cell => cell

def textual : Cell → Cell
  | .integer number => .text (toString number.toInt)
  | .real number => .text (realText number)
  | cell => cell

def keep : Affinity → Cell → Cell
  | .integer, cell | .numeric, cell => numeric cell
  | .real, cell => widened (numeric cell)
  | .text, cell => textual cell
  | .blob, cell | .unknown, cell => cell

def whole? : Cell → Option Int
  | .integer number => some number.toInt
  | .real number => number.toInt?
  | _ => none

def sameCell (first second : Cell) : Bool :=
  match whole? first, whole? second with
  | some one, some other => one == other
  | _, _ => first == second

/-- The same values one by one, none of them null. -/
def sameKey (first second : List Cell) : Bool :=
  first.length == second.length && (first.zip second).all fun (one, other) => !one.isNull && sameCell one other

/-- The integer that a value has as the number of a row. -/
def identity? (cell : Cell) : Option Int64 :=
  match numeric cell with
  | .integer number => some number
  | _ => none

def leastInteger : Int := Int64.minValue.toInt

def greatestInteger : Int := Int64.maxValue.toInt

def charactersOf : Cell → List Char
  | .text content => content.toList
  | .blob bytes => bytes.map fun byte => Char.ofNat byte.toNat
  | _ => []

/-- A value as an integer, whatever it is. Nothing counts from the first character on that is no
digit, and what goes beyond a word ends at its limits. -/
def toInteger (cell : Cell) : Int :=
  let unlimited :=
    match cell with
    | .integer number => number.toInt
    | .real number =>
      if number.isInfinite then (if number.isNegative then leastInteger else greatestInteger)
      else number.truncated
    | _ => (numeralOf (charactersOf cell)).1.toInt
  max leastInteger (min greatestInteger unlimited)

end Relmap.Catalog
