import Relmap.Code.Model
import Relmap.Text.Literal

/-! The text of the generated code, line by line. Names and expressions of the schema stand in it
between quotes, with everything escaped that would not show as itself; comments name a table as it
is. -/

namespace Relmap

def Affinity.constructor : Affinity → String
  | .integer => "Integer"
  | .real => "Real"
  | .text => "Text"
  | .blob => "Blob"
  | .numeric => "Numeric"
  | .unknown => "Unknown"

def FieldType.spelling : FieldType → String
  | .boolean => "bool"
  | .int => "i32"
  | .long => "i64"
  | .double => "f64"
  | .text => "String"
  | .bytes => "Vec<u8>"
  | .any => "ColumnValue"

def FieldType.spelled (type : FieldType) (nullable : Bool) : String :=
  if nullable then "Option<" ++ type.spelling ++ ">" else type.spelling

namespace Code

open Text (literal)

def indented (lines : List String) : List String := lines.map ("    " ++ ·)

def block (opening : String) (lines : List String) (closing : String) : List String :=
  (opening ++ " \x7b") :: indented lines ++ ["\x7d" ++ closing]

/-- An array with its elements, one a line. -/
def array (name type : String) (elements : List String) : List String :=
  ("static " ++ name ++ ": [" ++ type ++ "; " ++ toString elements.length ++ "] = [")
    :: indented (elements.map (· ++ ",")) ++ ["];"]

def boolean (flag : Bool) : String := if flag then "true" else "false"

def header (runtime : String) : List String :=
  ["// @generated by rowcast-gen. Do not edit.",
   "",
   "use " ++ runtime ++ "::registry::\x7binstall, OrmRegistry\x7d;",
   "use " ++ runtime ++ "::\x7b",
   "    Affinity, ColumnMeta, DataRow, Entity, MapError, RegistryError, RowMapper, TableMeta,",
   "\x7d;"]

def columnsName (entity : EntityModel) : String :=
  String.ofList (Text.upper entity.snake.toList) ++ "_COLUMNS"

def columnElement (column : Schema.Column) : String :=
  let default := match column.default with
    | some expression => "Some(" ++ literal expression ++ ")"
    | none => "None"
  "ColumnMeta::new(" ++ ", ".intercalate
    [literal column.name, "Affinity::" ++ column.affinity.constructor, boolean column.nullable, default,
      toString column.keyOrdinal.toNat, boolean column.autoIncrement] ++ ")"

def columnLines (entity : EntityModel) : List String :=
  "" :: array (columnsName entity) "ColumnMeta" (entity.table.columns.map columnElement)

def tableElement (entity : EntityModel) : String :=
  "TableMeta::new(" ++ ", ".intercalate
    [literal entity.table.name, literal entity.table.typeId, "&" ++ columnsName entity] ++ ")"

def tableLines (entities : List EntityModel) : List String :=
  "" :: array "TABLES" "TableMeta" (entities.map tableElement)

def accessorLines (index : Nat) (entity : EntityModel) : List String :=
  ("/// Metadata for table \x60" ++ entity.table.name ++ "\x60.")
    :: block ("pub fn " ++ entity.snake ++ "_table() -> &'static TableMeta")
      ["&TABLES[" ++ toString index ++ "]"] ""

def structLines (entity : EntityModel) : List String :=
  ["/// Row of table \x60" ++ entity.table.name ++ "\x60.", "#[derive(Debug, Clone, PartialEq)]"]
    ++ block ("pub struct " ++ entity.name)
      (entity.fields.map fun field =>
        "pub " ++ field.identifier ++ ": " ++ field.type.spelled field.column.nullable ++ ",") ""

/-- A field that may be missing is read as optional, any other as required. -/
def readerElement (field : FieldModel) : String :=
  let getter := if field.column.nullable then "optional" else "required"
  field.identifier ++ ": row." ++ getter ++ "(" ++ literal field.column.name ++ ")?,"

def mapperLines (entity : EntityModel) : List String :=
  let mapper := mapperName entity.name
  ["/// Maps rows of table \x60" ++ entity.table.name ++ "\x60 into [\x60" ++ entity.name ++ "\x60].",
   "#[derive(Debug, Clone, Copy, Default)]",
   "pub struct " ++ mapper ++ ";",
   ""]
    ++ block ("impl RowMapper<" ++ entity.name ++ "> for " ++ mapper)
      (block ("fn map(&self, row: &DataRow) -> Result<" ++ entity.name ++ ", MapError>")
        (block ("Ok(" ++ entity.name) (entity.fields.map readerElement) ")") "") ""

def entityImplLines (entity : EntityModel) : List String :=
  ["impl Entity for " ++ entity.name ++ " \x7b",
   "    const TYPE_ID: &'static str = " ++ literal entity.table.typeId ++ ";",
   ""]
    ++ indented (block "fn from_row(row: &DataRow) -> Result<Self, MapError>"
      [mapperName entity.name ++ ".map(row)"] "")
    ++ ["\x7d"]

def entityLines (index : Nat) (entity : EntityModel) : List String :=
  [""] ++ accessorLines index entity ++ [""] ++ structLines entity ++ [""] ++ mapperLines entity ++ [""]
    ++ entityImplLines entity

def registryLines : List String :=
  ["",
   "/// Registry over every generated table.",
   "#[derive(Debug, Clone, Copy, Default)]",
   "pub struct GeneratedRegistry;",
   ""]
    ++ block "impl OrmRegistry for GeneratedRegistry"
      (block "fn tables(&self) -> &[TableMeta]" ["&TABLES"] "") ""
    ++ ["",
        "/// Installs [\x60GeneratedRegistry\x60] as the process-wide registry.",
        "///",
        "/// # Errors",
        "///",
        "/// Fails if a registry is already installed."]
    ++ block "pub fn init() -> Result<(), RegistryError>" ["install(&GeneratedRegistry)"] ""

def lines (runtime : String) (entities : List EntityModel) : List String :=
  header runtime ++ entities.flatMap columnLines ++ tableLines entities
    ++ (entities.zipIdx.flatMap fun (entity, index) => entityLines index entity) ++ registryLines

/-- The whole text; every line ends with a line feed. -/
def render (tables : List Schema.Table) (settings : Settings) : Except SchemaError String :=
  (entities tables settings).map fun entities =>
    String.join ((lines settings.runtime entities).map (· ++ "\n"))

end Code

end Relmap
