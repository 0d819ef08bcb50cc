import Relmap.Json
import Relmap.Scan

/-! Reading JSON by its strict grammar: no comments, no trailing commas, no leading zeros, and
nothing around the value but four kinds of blanks. -/

namespace Relmap.Json

inductive Token where
  | blank
  | openBrace
  | closeBrace
  | openBracket
  | closeBracket
  | colon
  | comma
  /-- The word `null`, `true` or `false`. -/
  | word (value : Json)
  | number (digits : String)
  /-- No content if the text names half of a surrogate pair. -/
  | quoted (content : Option String)

def codeUnit? (digits : List Char) : Option Nat :=
  digits.foldlM (fun number c => do
    let digit ← if c.isDigit then some (c.toNat - '0'.toNat)
      else if 'a' ≤ c && c ≤ 'f' then some (c.toNat - 'a'.toNat + 10)
      else if 'A' ≤ c && c ≤ 'F' then some (c.toNat - 'A'.toNat + 10)
      else none
    return number * 16 + digit) 0

def escaped? : Char → Option Char
  | '"' => some '"'
  | '\\' => some '\\'
  | '/' => some '/'
  | 'b' => some '\x08'
  | 'f' => some '\x0c'
  | 'n' => some '\n'
  | 'r' => some '\r'
  | 't' => some '\t'
  | _ => none

/-- The codes of a text, halves of surrogate pairs apart, and how many characters they take with the
closing quote. -/
def quotedCodes : List Char → Option (List Nat × Nat)
  | [] => none
  | '"' :: _ => some ([], 1)
  | '\\' :: 'u' :: a :: b :: c :: d :: rest => do
    let unit ← codeUnit? [a, b, c, d]
    let (codes, length) ← quotedCodes rest
    return (unit :: codes, length + 6)
  | '\\' :: letter :: rest => do
    let c ← escaped? letter
    let (codes, length) ← quotedCodes rest
    return (c.toNat :: codes, length + 2)
  | c :: rest => do
    if c.toNat < 0x20 then failure
    let (codes, length) ← quotedCodes rest
    return (c.toNat :: codes, length + 1)

def isHigh (code : Nat) : Bool := 0xD800 ≤ code && code < 0xDC00

def isLow (code : Nat) : Bool := 0xDC00 ≤ code && code < 0xE000

/-- Two halves in their order are one character; a half in any other place is none. -/
def joinPairs : List Nat → Option (List Char)
  | [] => some []
  | [code] => if isHigh code || isLow code then none else some [Char.ofNat code]
  | high :: low :: rest =>
    if isHigh high && isLow low then
      (joinPairs rest).map (Char.ofNat (0x10000 + (high - 0xD800) * 0x400 + (low - 0xDC00)) :: ·)
    else if isHigh high || isLow high then none
    else (joinPairs (low :: rest)).map (Char.ofNat high :: ·)

/-- How many digits there are; none will not do. -/
def digitsLength (text : List Char) : Option Nat :=
  match runLength Char.isDigit text with
  | 0 => none
  | length => some length

/-- The digits before the point, where a zero stands alone. -/
def wholeLength : List Char → Option Nat
  | '0' :: _ => some 1
  | digits => digitsLength digits

def fractionLength : List Char → Option Nat
  | '.' :: rest => (digitsLength rest).map (· + 1)
  | _ => some 0

def exponentLength : List Char → Option Nat
  | c :: rest =>
    if c != 'e' && c != 'E' then some 0
    else
      match rest with
      | '+' :: digits | '-' :: digits => (digitsLength digits).map (· + 2)
      | digits => (digitsLength digits).map (· + 1)
  | [] => some 0

/-- A number, whose sign is the minus or nothing. -/
def numberLength (text : List Char) : Option Nat := do
  let sign := if text.head? == some '-' then 1 else 0
  let whole ← wholeLength (text.drop sign)
  let fraction ← fractionLength (text.drop (sign + whole))
  let exponent ← exponentLength (text.drop (sign + whole + fraction))
  return sign + whole + fraction + exponent

def words : List (String × Json) := [("null", .null), ("true", .bool true), ("false", .bool false)]

def readToken : PartReader Char Token := fun c behind =>
  match c with
  | ' ' | '\t' | '\n' | '\r' => some (.blank, 0)
  | '{' => some (.openBrace, 0)
  | '}' => some (.closeBrace, 0)
  | '[' => some (.openBracket, 0)
  | ']' => some (.closeBracket, 0)
  | ':' => some (.colon, 0)
  | ',' => some (.comma, 0)
  | '"' => (quotedCodes behind).map fun (codes, length) =>
    (.quoted ((joinPairs codes).map String.ofList), length)
  | c =>
    match words.find? fun (word, _) => word.toList.isPrefixOf (c :: behind) with
    | some (word, value) => some (.word value, word.length - 1)
    | none =>
      (numberLength (c :: behind)).map fun length =>
        (.number (String.ofList (c :: behind.take (length - 1))), length - 1)

/-- An object has a value only if all its names are texts. -/
def ofMembers (members : List (Option String × Json)) : Json :=
  match members.mapM fun (name, value) => name.map (·, value) with
  | some named => .object named
  | none => .void

mutual

/-- One value, and the tokens behind it. The number bounds how deep values are nested. -/
def readValue : Nat → List Token → Option (Json × List Token)
  | 0, _ => none
  | depth + 1, tokens =>
    match tokens with
    | .word value :: rest => some (value, rest)
    | .number digits :: rest => some (.number digits, rest)
    | .quoted content :: rest => some (content.elim .void .text, rest)
    | .openBracket :: .closeBracket :: rest => some (.array [], rest)
    | .openBracket :: rest => (readItems depth rest).map fun (items, after) => (.array items, after)
    | .openBrace :: .closeBrace :: rest => some (.object [], rest)
    | .openBrace :: rest => (readMembers depth rest).map fun (members, after) => (ofMembers members, after)
    | _ => none

def readItems : Nat → List Token → Option (List Json × List Token)
  | 0, _ => none
  | depth + 1, tokens => do
    let (item, rest) ← readValue depth tokens
    match rest with
    | .comma :: more => (readItems depth more).map fun (items, after) => (item :: items, after)
    | .closeBracket :: after => some ([item], after)
    | _ => none

def readMembers : Nat → List Token → Option (List (Option String × Json) × List Token)
  | 0, _ => none
  | depth + 1, tokens =>
    match tokens with
    | .quoted name :: .colon :: value => do
      let (value, rest) ← readValue depth value
      match rest with
      | .comma :: more =>
        (readMembers depth more).map fun (members, after) => ((name, value) :: members, after)
      | .closeBrace :: after => some ([(name, value)], after)
      | _ => none
    | _ => none

end

/-- The text must be one value and nothing else. Each level of nesting takes a token of its own. -/
def parse (text : String) : Option Json := do
  let tokens := (← scanAll readToken text.toList).filter fun token => !(token matches .blank)
  match ← readValue (2 * tokens.length + 1) tokens with
  | (value, []) => some value
  | _ => none

end Relmap.Json
