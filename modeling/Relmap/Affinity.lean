import Relmap.Text.Blank
import Relmap.Text.Mention

/-! The affinity of a column decides in which class its cells are read. It follows from the words
that the declared type mentions, whatever their case. -/

namespace Relmap

inductive Affinity where
  | integer
  | real
  | text
  | blob
  | numeric
  | unknown
  deriving DecidableEq, Inhabited

namespace Affinity

def name : Affinity → String
  | .integer => "INTEGER"
  | .real => "REAL"
  | .text => "TEXT"
  | .blob => "BLOB"
  | .numeric => "NUMERIC"
  | .unknown => "UNKNOWN"

/-- The first line that applies decides: `POINT` is an integer type and `FLOATING CHAR` a text. -/
def ofType (declared : List Char) : Affinity :=
  let mentioned := fun word : String => Text.mentions (Text.upper declared) word.toList
  if mentioned "INT" then .integer
  else if mentioned "CHAR" || mentioned "CLOB" || mentioned "TEXT" then .text
  else if mentioned "BLOB" then .blob
  else if mentioned "REAL" || mentioned "FLOA" || mentioned "DOUB" then .real
  else .numeric

/-- A column without a declared type, or with a blank one, keeps every cell as it is stored. -/
def ofDeclared (declared : Option String) : Affinity :=
  match declared.map fun text => Text.trim text.toList with
  | none | some [] => .unknown
  | some words => ofType words

end Affinity

end Relmap
