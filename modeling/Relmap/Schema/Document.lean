import Relmap.Json
import Relmap.Schema

/-! Tables as JSON, with every field under its name and always in the same order. -/

namespace Relmap.Schema

def optionalText (text : Option String) : Json :=
  match text with
  | some content => .text content
  | none => .null

def Column.toJson (column : Column) : Json :=
  .object [
    ("name", .text column.name),
    ("declared_type", optionalText column.declaredType),
    ("affinity", .text column.affinity.name),
    ("nullable", .bool column.nullable),
    ("default_value", optionalText column.default),
    ("primary_key_ordinal", .number (toString column.keyOrdinal.toNat)),
    ("auto_increment", .bool column.autoIncrement)]

def Table.toJson (table : Table) : Json :=
  .object [
    ("name", .text table.name),
    ("type_id", .text table.typeId),
    ("columns", .array (table.columns.map (·.toJson)))]

end Relmap.Schema
