import Relmap.Catalog.Phrase
import Relmap.Catalog.Storage

/-! Values as statements write them: a literal, perhaps behind signs. A plus sign changes nothing,
not even a text, so only the minus signs count. -/

namespace Relmap.Catalog

inductive Literal where
  | null
  | number (digits : String)
  | string (content : String)
  | blob (bytes : Bytes)
  | truth (flag : Bool)
  /-- The time at which the statement runs, by the word that asks for it. -/
  | time (word : String)
  deriving DecidableEq, Inhabited

structure Constant where
  minuses : Nat
  literal : Literal
  deriving DecidableEq, Inhabited

def hexValue (digits : List Char) : Nat :=
  let digit := fun c : Char =>
    if c.isDigit then c.toNat - '0'.toNat else c.toLower.toNat - 'a'.toNat + 10
  digits.foldl (fun value c => 16 * value + digit c) 0

def blobBytes : List Char → Bytes
  | first :: second :: rest => UInt8.ofNat (hexValue [first, second]) :: blobBytes rest
  | _ => []

/-- An integer as it is written. To the base sixteen it is a word of sixty-four bits, the first of
which tells the sign, and more digits have no meaning. -/
inductive WrittenInteger where
  | decimal (magnitude : Nat)
  | word (value : Int64)
  | tooLong

def writtenInteger? (digits : List Char) : Option WrittenInteger :=
  if isHexadecimal digits then
    let significant := (digits.drop 2).dropWhile (· == '0')
    some (if significant.length ≤ 16 then .word (Int64.ofNat (hexValue significant)) else .tooLong)
  else if digits.all Char.isDigit then some (.decimal (digitsValue digits))
  else none

/-- Some text of the right length; what time it is can be told from nothing that a schema shows. -/
def timeText : String → String
  | "CURRENT_DATE" => "2000-01-01"
  | "CURRENT_TIME" => "00:00:00"
  | _ => "2000-01-01 00:00:00"

namespace Literal

def ofNumber? (digits : String) : Option Cell :=
  match writtenInteger? digits.toList with
  | some (.word value) => some (.integer value)
  | some .tooLong => none
  | _ => some (numeralOf digits.toList).1.toCell

def value? : Literal → Option Cell
  | .null => some .null
  | .number digits => ofNumber? digits
  | .string content => some (.text content)
  | .blob bytes => some (.blob bytes)
  | .truth flag => some (.integer (if flag then 1 else 0))
  | .time word => some (.text (timeText word))

def of? (lexeme : Lexeme) : Option Literal :=
  match lexeme.token with
  | .number digits => some (.number digits)
  | .string content => some (.string content)
  | .quoted content => if lexeme.raw.head? == some '"' then some (.string content) else none
  | .blob digits => some (.blob (blobBytes ((digits.toList.drop 2).dropLast)))
  | .word "NULL" => some .null
  | .word "TRUE" => some (.truth true)
  | .word "FALSE" => some (.truth false)
  | .word capitals => if timeWords.contains capitals then some (.time capitals) else none
  | _ => none

/-- The literal that a default is. Any word or name is taken for a text. -/
def ofDefault (lexeme : Lexeme) : Literal :=
  match lexeme.token with
  | .quoted content => .string content
  | _ => (of? lexeme).getD (.string (String.ofList lexeme.raw))

end Literal

def negateNumber : Cell → Cell
  | .integer number => if number == Int64.minValue then .real (.ofInt (-number.toInt)) else .integer (-number)
  | .real number => .real number.negated
  | cell => cell

def negate : Cell → Cell
  | .text content => negateNumber (leadingNumber (charactersOf (.text content)))
  | .blob bytes => negateNumber (leadingNumber (charactersOf (.blob bytes)))
  | cell => negateNumber cell

/-- A number right behind a minus sign. The least integer can be written so, but not to the base
sixteen. -/
def negativeNumber? (digits : String) : Option Cell :=
  match writtenInteger? digits.toList with
  | some (.word value) => if value == Int64.minValue then none else some (.integer (-value))
  | some .tooLong => none
  | _ => some (numeralOf ('-' :: digits.toList)).1.toCell

namespace Constant

def negateTimes : Nat → Cell → Cell
  | 0, cell => cell
  | times + 1, cell => negateTimes times (negate cell)

def value? (constant : Constant) : Option Cell :=
  match constant with
  | ⟨minuses + 1, .number digits⟩ => (negativeNumber? digits).map (negateTimes minuses)
  | ⟨minuses, literal⟩ => literal.value?.map (negateTimes minuses)

/-- Whether null is meant. Null behind a minus sign is not looked through. -/
def isNull (constant : Constant) : Bool := constant.literal == .null && constant.minuses == 0

def isTime (constant : Constant) : Bool := constant.literal matches .time _

/-- A number as a default keeps it: a text of the digits as they are written, which the column may
turn into a number. Only an integer that fits a word is a number by itself. -/
def defaultNumber (affinity : Affinity) (negative : Bool) (digits : String) : Cell :=
  let whole? : Option Cell :=
    match writtenInteger? digits.toList with
    | some (.word value) => some (.integer value)
    | some (.decimal magnitude) => integer? magnitude
    | _ => none
  match whole? with
  | some whole => keep affinity (if negative then negate whole else whole)
  | none =>
    let text : Cell := .text (if negative then "-" ++ digits else digits)
    if affinity == .blob || affinity == .unknown then numeric text else keep affinity text

def default (affinity : Affinity) (constant : Constant) : Cell :=
  let negative := 0 < constant.minuses
  match constant.literal with
  | .number digits => defaultNumber affinity negative digits
  | literal =>
    let value := keep affinity (literal.value?.getD .null)
    if negative then keep affinity (negate value) else value

end Constant

end Relmap.Catalog
