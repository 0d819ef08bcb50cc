import Relmap.Affinity
import Relmap.Catalog.Phrase

/-! The type of a column: any words, perhaps with one or two sizes. Six types are standard and are
known by one spelling each; every other type is kept as it was written. -/

namespace Relmap.Catalog

structure ColumnType where
  text : String
  isStandard : Bool
  deriving DecidableEq, Inhabited

/-- A column without a type, or with an empty one, keeps every value as it is. -/
def ColumnType.affinity (type : ColumnType) : Affinity :=
  if type.text.isEmpty then .unknown else .ofType type.text.toList

/-- How many lexemes a number with its sign takes, 0 if there is none. No mark stands between its
digits. -/
def signedLength : List Lexeme → Nat
  | first :: rest =>
    let isNumber := fun lexeme : Lexeme => (lexeme.token matches .number _) && !lexeme.raw.contains '_'
    if isNumber first then 1
    else if first.isSign && rest.head?.any isNumber then 2
    else 0
  | [] => 0

def isSize (inside : List Lexeme) : Bool :=
  let sizes := items 0 inside
  sizes.length ≤ 2 && sizes.all fun size => !size.isEmpty && signedLength size == size.length

def typeLength (behind : List Lexeme) : Nat :=
  match runLength Lexeme.isTypeWord behind with
  | 0 => 0
  | words =>
    match group? (behind.drop words) with
    | some (inside, _) => if isSize inside then words + inside.length + 2 else words
    | none => words

def beforeWord? (word : String) (text : List Char) : Option (List Char) :=
  let length := text.length - word.length
  if Text.lower (text.drop length) == word.toList then
    some ((text.take length).reverse.dropWhile Text.isSpace).reverse
  else none

/-- Words for a computed column, which nothing follows here, are no part of the type. Short texts
are not looked at, because both words together have sixteen letters. -/
def withoutComputed (text : List Char) : List Char :=
  if (String.ofList text).utf8ByteSize < 16 then text
  else
    match beforeWord? "always" text with
    | some before => (beforeWord? "generated" before).getD before
    | none => text

def isQuote (c : Char) : Bool := c == '\'' || c == '"' || c == '\x60' || c == '['

/-- A text that begins with a quote loses its ends if no other quote stands between them. -/
def withoutEnds (text : List Char) : List Char :=
  let inside := text.tail.dropLast
  if text.head?.any isQuote && !inside.any isQuote then inside else text

def unquoted (text : List Char) : List Char :=
  match text with
  | quote :: rest =>
    if isQuote quote then
      ((Text.quotedContent (if quote == '[' then ']' else quote) rest).map (·.1)).getD rest
    else text
  | [] => []

def standardTypes : List String := ["ANY", "BLOB", "INT", "INTEGER", "REAL", "TEXT"]

def ColumnType.ofText (written : List Char) : ColumnType :=
  let text := withoutEnds (withoutComputed written)
  match standardTypes.find? (Text.sameLetters (String.ofList text)) with
  | some standard => ⟨standard, true⟩
  | none => ⟨String.ofList (unquoted text), false⟩

end Relmap.Catalog
