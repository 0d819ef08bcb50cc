import Relmap.Scan

/-! The digits of numbers in a statement. Between two digits a mark may stand that has no meaning,
and a number may be written to the base sixteen. -/

namespace Relmap.Catalog

def digitRun (isDigit : Char → Bool) (text : List Char) : Nat :=
  runLength (fun c => isDigit c || c == '_') text

def numberLength (text : List Char) : Nat :=
  let whole := digitRun Char.isDigit text
  let afterWhole := text.drop whole
  let fraction := if afterWhole.head? == some '.' then 1 + digitRun Char.isDigit (afterWhole.drop 1) else 0
  let afterFraction := afterWhole.drop fraction
  let exponent :=
    match afterFraction with
    | c :: rest =>
      if c != 'e' && c != 'E' then 0
      else
        let sign := if rest.head? == some '+' || rest.head? == some '-' then 1 else 0
        let digits := rest.drop sign
        if digits.head?.any Char.isDigit then 1 + sign + digitRun Char.isDigit digits else 0
    | [] => 0
  whole + fraction + exponent

def isHexDigit (c : Char) : Bool := c.isDigit || ('a' ≤ c.toLower && c.toLower ≤ 'f')

def marksBetween (isDigit : Char → Bool) : List Char → Bool
  | before :: '_' :: after :: rest => isDigit before && isDigit after && marksBetween isDigit (after :: rest)
  | c :: rest => c != '_' && marksBetween isDigit rest
  | [] => true

def isHexadecimal : List Char → Bool
  | '0' :: x :: digit :: _ => (x == 'x' || x == 'X') && isHexDigit digit
  | _ => false

end Relmap.Catalog
