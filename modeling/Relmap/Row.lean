import Relmap.Field

/-! Decoded rows. A cell is looked up by the name of its column, and a name that occurs twice gives
its first cell. -/

namespace Relmap

inductive ReadError where
  | nullViolation (column : String)
  | typeMismatch (column expected found : String)
  deriving DecidableEq

def ReadError.message : ReadError → String
  | .nullViolation column => "column '" ++ column ++ "' is null"
  | .typeMismatch column expected found =>
    "column '" ++ column ++ "': expected " ++ expected ++ ", found " ++ found

structure Row where
  entries : List (String × Cell)
  deriving DecidableEq, Inhabited

namespace Row

def names (row : Row) : List String := row.entries.map (·.1)

def get? (row : Row) (column : String) : Option Cell := row.entries.lookup column

/-- A column that is absent reads like one that is null. -/
def optional (row : Row) (column : String) (type : FieldType) : Except ReadError (Option type.Carrier) :=
  match row.get? column with
  | none | some .null => .ok none
  | some cell =>
    match type.read cell with
    | some value => .ok (some value)
    | none => .error (.typeMismatch column type.expected cell.kind)

def required (row : Row) (column : String) (type : FieldType) : Except ReadError type.Carrier := do
  match ← row.optional column type with
  | some value => return value
  | none => throw (.nullViolation column)

/-- The form for logs shows each entry, also those whose name occurred before. -/
def render (row : Row) : String :=
  "DataRow(" ++ ", ".intercalate (row.entries.map fun (name, cell) => name ++ "=" ++ cell.inspect) ++ ")"

end Row

/-- A way to read a row as a value of some type. -/
abbrev Mapper (α : Type) := Row → Except ReadError α

/-- A type whose values are rows of one table, found under its type id. -/
structure Entity (α : Type) where
  typeId : String
  read : Mapper α

structure Field where
  column : String
  type : FieldType
  required : Bool

structure Reading where
  type : FieldType
  value : Option type.Carrier

def Field.read (field : Field) : Mapper Reading := fun row =>
  if field.required then do return ⟨field.type, some (← row.required field.column field.type)⟩
  else do return ⟨field.type, ← row.optional field.column field.type⟩

/-- Fields are read in order and the first error is the answer. -/
def readFields (fields : List Field) : Mapper (List Reading) := fun row =>
  fields.mapM fun field => field.read row

end Relmap
