import Relmap.Identifier
import Relmap.Settings

/-! What is generated for a schema: an entity for each table, in the order of the tables' names,
with names for all that is declared. Names are given in that order, so a name that is taken gets a
number. -/

namespace Relmap.Code

/-- The `n`-th candidate for a name, from 0: the name itself, then the name with 2, 3 and so on. -/
def numbered (base separator : String) (n : Nat) : String :=
  if n == 0 then base else base ++ separator ++ toString (n + 1)

structure FieldModel where
  identifier : String
  column : Schema.Column
  type : FieldType

structure EntityModel where
  table : Schema.Table
  name : String
  fields : List FieldModel

namespace EntityModel

def snake (entity : EntityModel) : String := Identifier.snakeCase entity.name

end EntityModel

def mapperName (entityName : String) : String := entityName ++ "RowMapper"

/-- Types that generated code refers to. The last nine are known without an import, and one of these
can name no type at all. -/
def reservedTypes : List String :=
  ["Affinity", "ColumnMeta", "DataRow", "Entity", "GeneratedRegistry", "MapError", "OrmRegistry",
   "RegistryError", "RowMapper", "TableMeta", "Box", "Err", "None", "Ok", "Option", "Result", "Self", "Some",
   "String", "Vec"]

structure Names where
  types : List String := reservedTypes
  snakes : List String := []

namespace Names

/-- An entity declares two types, and its functions are named in their own style. -/
def takes (names : Names) (candidate : String) : Bool :=
  names.types.contains candidate || names.types.contains (mapperName candidate)
    || names.snakes.contains (Identifier.snakeCase candidate)

/-- A taken name rules out at most two candidates, whichever of its uses it has. -/
def fresh (names : Names) (base : String) : String :=
  Identifier.firstFree names.takes (numbered base "") 0 (2 * (names.types.length + names.snakes.length))

def claim (names : Names) (name : String) : Names where
  types := name :: mapperName name :: names.types
  snakes := Identifier.snakeCase name :: names.snakes

end Names

def baseName (settings : Settings) (table : Schema.Table) : String :=
  (settings.structNames.get? table.name).getD (Identifier.typeName table.typeId)

/-- Names of entities, given in the order of the tables. -/
def entityNames (settings : Settings) (names : Names) : List Schema.Table → List String
  | [] => []
  | table :: rest =>
    let name := names.fresh (baseName settings table)
    name :: entityNames settings (names.claim name) rest

/-- Different identifiers for names, given in order. A column may look like one that got a number,
so each candidate is compared with all identifiers before. -/
def distinctIdentifiers (used : List String) : List String → List String
  | [] => []
  | name :: rest =>
    let candidate := numbered (Identifier.snakeCase name) "_"
    let identifier := Identifier.firstFree used.contains candidate 0 used.length
    identifier :: distinctIdentifiers (identifier :: used) rest

/-- The identifiers of a table's fields. Keywords are escaped after all identifiers differ. -/
def fieldIdentifiers (columns : List Schema.Column) : List String :=
  (distinctIdentifiers [] (columns.map (·.name))).map Identifier.escapeKeyword

def fields (settings : Settings) (table : Schema.Table) : Except SchemaError (List FieldModel) :=
  (table.columns.zip (fieldIdentifiers table.columns)).mapM fun (column, identifier) =>
    (settings.fieldType table column).map fun type => ⟨identifier, column, type⟩

def sortedTables (tables : List Schema.Table) : List Schema.Table :=
  tables.mergeSort fun first second => first.name ≤ second.name

/-- The entities of a schema. The first column in order whose hint names no type is the error. -/
def entities (tables : List Schema.Table) (settings : Settings) : Except SchemaError (List EntityModel) :=
  let sorted := sortedTables tables
  (sorted.zip (entityNames settings {} sorted)).mapM fun (table, name) =>
    (fields settings table).map fun fields => ⟨table, name, fields⟩

end Relmap.Code
