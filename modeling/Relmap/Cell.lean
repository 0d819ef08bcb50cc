import Relmap.Value

/-! Values that come back in a result column, each in one of five storage classes. -/

namespace Relmap

inductive Cell where
  | null
  | integer (number : Int64)
  | real (number : Binary64)
  | text (content : String)
  | blob (bytes : Bytes)
  deriving DecidableEq, Inhabited

namespace Cell

def isNull : Cell → Bool
  | .null => true
  | _ => false

def kind : Cell → String
  | .null => "NULL"
  | .integer _ => "INTEGER"
  | .real _ => "REAL"
  | .text _ => "TEXT"
  | .blob _ => "BLOB"

def toValue : Cell → Value
  | .null => .null
  | .integer number => .int number
  | .real number => .float number
  | .text content => .text content
  | .blob bytes => .blob bytes

def inspect : Cell → String
  | .null => "Null"
  | .integer number => "Integer(" ++ toString number.toInt ++ ")"
  | .real number => "Real(" ++ number.marked ++ ")"
  | .text content => "Text(" ++ Text.literal content ++ ")"
  | .blob bytes => "Blob(" ++ inspectBytes bytes ++ ")"

end Cell

instance : ToValue Cell := ⟨Cell.toValue⟩

/-- A result row as the database delivers it, by position. -/
abbrev StoredRow := List Cell

namespace StoredRow

def cell? (row : StoredRow) (index : Nat) : Option Cell := row[index]?

/-- Only an integer reads as one. -/
def long? (row : StoredRow) (index : Nat) : Option Int64 :=
  match row[index]? with
  | some (.integer number) => some number
  | _ => none

/-- An integer reads as the nearest float. A text is not parsed. -/
def double? (row : StoredRow) (index : Nat) : Option Binary64 :=
  match row[index]? with
  | some (.real number) => some number
  | some (.integer number) => some (.ofInt number.toInt)
  | _ => none

/-- A number reads as its digits. A blob does not read as text. -/
def string? (row : StoredRow) (index : Nat) : Option String :=
  match row[index]? with
  | some (.text content) => some content
  | some (.integer number) => some (toString number.toInt)
  | some (.real number) => some number.plain
  | _ => none

/-- A text reads as its UTF-8 bytes. -/
def bytes? (row : StoredRow) (index : Nat) : Option Bytes :=
  match row[index]? with
  | some (.blob bytes) => some bytes
  | some (.text content) => some content.toUTF8.toList
  | _ => none

end StoredRow

end Relmap
