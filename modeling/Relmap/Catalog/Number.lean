import Relmap.Catalog.Lexeme
import Relmap.Cell
import Relmap.Decimal.Nearest

/-! Numbers in the texts of a database. A text counts as a number if nothing but white space stands
around one; where a number is asked for in any case, what the text begins with counts, and 0 if that
is no number. -/

namespace Relmap.Catalog

structure Numeral where
  negative : Bool
  whole : List Char
  fraction : List Char
  /-- Whether it has neither a point nor an exponent. -/
  isInteger : Bool
  exponent : Int
  deriving DecidableEq

def digitsValue (digits : List Char) : Nat :=
  digits.foldl (fun value c => 10 * value + (c.toNat - '0'.toNat)) 0

def takeSign : List Char → Bool × List Char
  | '-' :: rest => (true, rest)
  | '+' :: rest => (false, rest)
  | text => (false, text)

def takeDigits (text : List Char) : List Char × List Char := text.span Char.isDigit

/-- An exponent that is beyond every float is cut, so that it stays a small number. -/
def exponentValue (negative : Bool) (digits : List Char) : Int :=
  let value := min (digitsValue digits) 10000
  if negative then -value else value

def takeExponent (text : List Char) : Option Int × List Char :=
  match text with
  | e :: rest =>
    if e != 'e' && e != 'E' then (none, text)
    else
      let (negative, rest) := takeSign rest
      match takeDigits rest with
      | ([], _) => (none, text)
      | (digits, rest) => (some (exponentValue negative digits), rest)
  | [] => (none, text)

def numeralOf (text : List Char) : Numeral × List Char :=
  let (negative, rest) := takeSign (text.dropWhile Text.isSpace)
  let (whole, rest) := takeDigits rest
  let (fraction, hasPoint, rest) :=
    match rest with
    | '.' :: behind =>
      let (digits, rest) := takeDigits behind
      (digits, true, rest)
    | _ => ([], false, rest)
  let (exponent, rest) := takeExponent rest
  (⟨negative, whole, fraction, !hasPoint && exponent.isNone, exponent.getD 0⟩, rest)

namespace Numeral

def hasDigits (numeral : Numeral) : Bool := !(numeral.whole.isEmpty && numeral.fraction.isEmpty)

def toReal (numeral : Numeral) : Binary64 :=
  .ofDecimal numeral.negative
    ⟨digitsValue (numeral.whole ++ numeral.fraction), numeral.exponent - numeral.fraction.length⟩

def toInt (numeral : Numeral) : Int :=
  let value : Nat := digitsValue numeral.whole
  if numeral.negative then -value else value

end Numeral

def integer? (value : Int) : Option Cell :=
  if -0x8000000000000000 ≤ value && value ≤ 0x7FFFFFFFFFFFFFFF then
    some (.integer (Int64.ofInt value))
  else none

/-- An integer if it is written as one and fits a word, else a float. -/
def Numeral.toCell (numeral : Numeral) : Cell :=
  (if numeral.isInteger then integer? numeral.toInt else none).getD (.real numeral.toReal)

def number? (text : List Char) : Option Cell :=
  match numeralOf text with
  | (numeral, rest) => if numeral.hasDigits && rest.all Text.isSpace then some numeral.toCell else none

def leadingNumber (text : List Char) : Cell :=
  let numeral := (numeralOf text).1
  if numeral.hasDigits then numeral.toCell else .integer 0

/-- Fifteen digits at most, of which at least one stands behind the point. From `10 ^ 15` on and
below `10 ^ -4` there is an exponent, with its sign and two digits at least. -/
def realText (number : Binary64) : String :=
  let sign := if number.isNegative && number.toInt? != some 0 then "-" else ""
  if number.isInfinite then sign ++ "Inf"
  else
    let nearest := Decimal.nearest number.magnitude 15
    let digits := Nat.toDigits 10 nearest.digits
    let exponent : Int := if nearest.digits == 0 then 0 else nearest.exponent + digits.length - 1
    let body :=
      if exponent < -4 || 14 < exponent then
        let fraction := digits.drop 1
        let size := Nat.toDigits 10 exponent.natAbs
        digits.take 1 ++ '.' :: (if fraction.isEmpty then ['0'] else fraction)
          ++ 'e' :: (if exponent < 0 then '-' else '+') :: (if size.length < 2 then '0' :: size else size)
      else Decimal.positional ⟨true, false⟩ digits (exponent + 1)
    sign ++ String.ofList body

end Relmap.Catalog
