import Relmap.Cell
import Relmap.Affinity

/-! The types that fields of an entity can have. Each has the values it carries, the way such a
value becomes an argument, and the cells that it can be read from. -/

namespace Relmap

inductive FieldType where
  | boolean
  | int
  | long
  | double
  | text
  | bytes
  /-- Any cell, in the class in which it is stored. -/
  | any
  deriving DecidableEq

namespace FieldType

abbrev Carrier : FieldType → Type
  | .boolean => Bool
  | .int => Int32
  | .long => Int64
  | .double => Binary64
  | .text => String
  | .bytes => Bytes
  | .any => Cell

def expected : FieldType → String
  | .boolean | .int | .long => "INTEGER"
  | .double => "REAL"
  | .text => "TEXT"
  | .bytes => "BLOB"
  | .any => "any"

def argument : (type : FieldType) → type.Carrier → Value
  | .boolean, flag => toValue (show Bool from flag)
  | .int, number => toValue (show Int32 from number)
  | .long, number => toValue (show Int64 from number)
  | .double, number => toValue (show Binary64 from number)
  | .text, content => toValue (show String from content)
  | .bytes, content => toValue (show Bytes from content)
  | .any, cell => toValue (show Cell from cell)

/-- An integer is true unless it is zero, and narrow only if it fits. A number reads as its digits
where a text is asked for, and an integer as the nearest float. -/
def read : (type : FieldType) → Cell → Option type.Carrier
  | .boolean, .integer number => some (number != 0)
  | .int, .integer number =>
    if number.toInt32.toInt64 = number then some number.toInt32 else none
  | .long, .integer number => some number
  | .double, .real number => some number
  | .double, .integer number => some (Binary64.ofInt number.toInt)
  | .text, .text content => some content
  | .text, .integer number => some (toString number.toInt)
  | .text, .real number => some number.plain
  | .bytes, .blob content => some content
  | .any, cell => some cell
  | _, _ => none

/-- The type of a field that nothing else is known about. Numeric and unknown columns are read as
text. -/
def ofAffinity : Affinity → FieldType
  | .integer => .long
  | .real => .double
  | .blob => .bytes
  | .text | .numeric | .unknown => .text

end FieldType

end Relmap
