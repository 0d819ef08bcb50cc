import Relmap.Json.Reader
import Relmap.Settings

/-! Settings as a file holds them, in JSON. Whatever is missing has its default. -/

namespace Relmap.Settings

def fields : List String := ["extensions", "type_hints", "struct_names", "runtime_crate"]

/-- A field's value, or its default if it is missing. A value that is there must be readable. -/
def fieldOr {α : Type} (default : α) (read : Json → Option α) : Option Json → Option α
  | none => some default
  | some value => read value

def dictionary? (value : Json) : Option Dictionary := value.textMembers?.map .ofList

def ofJson? (value : Json) : Option Settings := do
  match ← value.record? fields with
  | [extensions, typeHints, structNames, runtime] =>
    let default : Settings := {}
    return {
      extensions := ← fieldOr default.extensions Json.texts? extensions
      typeHints := ← fieldOr .empty dictionary? typeHints
      structNames := ← fieldOr .empty dictionary? structNames
      runtime := ← fieldOr default.runtime Json.text? runtime }
  | _ => none

/-- Settings are refused as a whole if one of their hints names no type. -/
def parse (text : String) : Except SchemaError Settings := do
  match (Json.parse text).bind ofJson? with
  | none => throw .malformedSettings
  | some settings =>
    settings.validate
    return settings

def load (path : String) (found : Except FileFault Tree) : Except SchemaError Settings := do
  match found.bind Tree.text with
  | .error fault => throw (.unusable path fault)
  | .ok text => parse text

end Relmap.Settings
