import Relmap.Catalog.Reading
import Relmap.Catalog.Refusal

/-! Tables of a database: what is known of their columns and keys, and which definitions are
accepted. -/

namespace Relmap.Catalog

structure StoredTable where
  definition : TableDefinition
  indexes : List IndexDefinition := []
  rows : List (List Cell) := []
  deriving Inhabited

namespace StoredTable

def name (table : StoredTable) : String := table.definition.name

def temporary (table : StoredTable) : Bool := table.definition.temporary

def columns (table : StoredTable) : List ColumnDefinition := table.definition.columns

def key (table : StoredTable) : List String :=
  table.definition.key.getD ((table.columns.filter (·.isKey)).map (·.name))

def position? (table : StoredTable) (name : String) : Option Nat :=
  table.columns.findIdx? fun column => Text.sameLetters column.name name

def column? (table : StoredTable) (name : String) : Option ColumnDefinition :=
  table.columns.find? fun column => Text.sameLetters column.name name

/-- The column that numbers the rows: a key of one column with the standard type `INTEGER`. -/
def rowIdentity? (table : StoredTable) : Option ColumnDefinition :=
  match table.key with
  | [only] => (table.column? only).filter fun column => column.type == ⟨"INTEGER", true⟩
  | _ => none

def identityPosition? (table : StoredTable) : Option Nat :=
  table.rowIdentity?.bind fun column => table.position? column.name

def autoIncrements (table : StoredTable) : Bool := table.columns.any (·.autoIncrements)

/-- Columns under which no row has the same values as another. -/
def uniqueKeys (table : StoredTable) : List (List String) :=
  (if table.key.isEmpty then [] else [table.key])
    ++ (table.columns.filter (·.isUnique)).map (fun column => [column.name])
    ++ (table.indexes.filter (·.unique)).map (·.parts)

def misses? (table : StoredTable) (index : IndexDefinition) : Option String :=
  index.columns.find? fun column => (table.column? column).isNone

def createText (table : StoredTable) : String :=
  "CREATE TABLE " ++ String.ofList (written table.definition.source)

/-- The position of a column in the key, from 1. A key in which columns occur more than once is not
looked through beyond the number of columns. -/
def keyOrdinal (table : StoredTable) (column : ColumnDefinition) : Nat :=
  match table.key.findIdx? (Text.sameLetters column.name) with
  | some index => min index table.columns.length + 1
  | none => 0

/-- What is known of each column: its position, name, type, whether null is refused, the default,
and its position in the key. -/
def columnRows (table : StoredTable) : List StoredRow :=
  table.columns.zipIdx.map fun (column, position) =>
    [.integer (Int64.ofNat position), .text column.name, .text column.type.text,
      .integer (if column.notNull then 1 else 0),
      (column.default?.map fun (expression, _) => .text expression).getD .null,
      .integer (Int64.ofNat (table.keyOrdinal column))]

end StoredTable

def refuseIf (condition : Bool) (refusal : Refusal) : Except Refusal Unit :=
  if condition then .error refusal else .ok ()

def firstRepeated : List String → Option String
  | [] => none
  | name :: rest => if rest.any (Text.sameLetters name) then some name else firstRepeated rest

def greatestWidth : Nat := 2000

/-- Columns have different names, a table has at most one key, the key is of its own columns, and
only an `INTEGER` that is the whole key can number rows. A column refers to one column at most. -/
def checkTable (definition : TableDefinition) : Except Refusal Unit := do
  let table : StoredTable := { definition }
  refuseIf (greatestWidth < table.columns.length || greatestWidth < table.key.length) (.tooManyColumns table.name)
  match firstRepeated (table.columns.map (·.name)) with
  | some name => throw (.duplicateColumn name)
  | none => pure ()
  let keys := table.columns.flatMap fun column => column.constraints.filter (· matches .primaryKey _)
  refuseIf (1 < keys.length + definition.key.toList.length) (.severalKeys table.name)
  match table.key.find? fun name => (table.column? name).isNone with
  | some name => throw (.noSuchColumn name)
  | none => pure ()
  refuseIf (table.autoIncrements && table.rowIdentity?.isNone) .autoIncrementKey
  match table.columns.findSome? (·.overReferenced?) with
  | some name => throw (.severalReferences name)
  | none => pure ()

end Relmap.Catalog
