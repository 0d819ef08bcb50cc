import Relmap.Dictionary
import Relmap.Field
import Relmap.Files.Path
import Relmap.Schema
import Relmap.Schema.Error

/-! What a user can choose: which files belong to a schema, the types of single fields, the names of
entities, and where the generated code finds its library. -/

namespace Relmap

/-- A type by one of its names in settings. Case and the blanks around it do not matter. -/
def FieldType.ofHint (hint : String) : Option FieldType :=
  match String.ofList (Text.lower (Text.trim hint.toList)) with
  | "bool" | "boolean" => some .boolean
  | "int" => some .int
  | "long" => some .long
  | "double" => some .double
  | "string" => some .text
  | "bytes" => some .bytes
  | _ => none

structure Settings where
  /-- Of files that belong to a schema, without the dot. -/
  extensions : List String := ["sq", "sqm", "sql"]
  /-- Names of types, under a table's and a column's name with a dot between. -/
  typeHints : Dictionary := .empty
  /-- Names of entities, under the names of their tables. -/
  structNames : Dictionary := .empty
  runtime : String := "rowcast_core"
  deriving DecidableEq

namespace Settings

def takes (settings : Settings) (extension : String) : Bool :=
  settings.extensions.any (Text.sameLetters extension)

/-- Whether a file belongs to a schema, by its path alone. -/
def takesPath (settings : Settings) (path : String) : Bool := (Path.extension? path).any settings.takes

def hint? (settings : Settings) (key : String) : Except SchemaError (Option FieldType) :=
  match settings.typeHints.get? key with
  | none => .ok none
  | some hint =>
    match FieldType.ofHint hint with
    | some type => .ok (some type)
    | none => .error (.unknownHint key hint)

/-- The first key in order whose hint names no type is the error. -/
def validate (settings : Settings) : Except SchemaError Unit :=
  settings.typeHints.entries.forM fun (key, _) => (settings.hint? key).map fun _ => ()

def hintKey (table : Schema.Table) (column : Schema.Column) : String := table.name ++ "." ++ column.name

/-- A hint decides the type of a column's field, else its affinity does. -/
def fieldType (settings : Settings) (table : Schema.Table) (column : Schema.Column) :
    Except SchemaError FieldType :=
  (settings.hint? (hintKey table column)).map fun hint => hint.getD (.ofAffinity column.affinity)

end Settings

end Relmap
