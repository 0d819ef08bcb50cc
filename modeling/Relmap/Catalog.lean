import Relmap.Catalog.Alteration
import Relmap.Catalog.Row

/-! The schema of a database, and what changes it. A change either is carried out as a whole or is
refused and changes nothing. Names are compared without regard to the case of ASCII letters.

This module and all under it stand in for SQLite, which the program is linked with and has no part of, so that the whole
program can be run without it. The library proves nothing about them: where a database takes part in a theorem it is any
driver, and what the driver is taken to answer is said there. -/

namespace Relmap

structure Catalog where
  tables : List Catalog.StoredTable := []
  deriving Inhabited

namespace Catalog

def isInternal (name : String) : Bool := "sqlite_".toList.isPrefixOf (Text.lower name.toList)

/-- The tables that last, or those that do not. References lead to tables of the same kind only. -/
def database (catalog : Catalog) (temporary : Bool) : List StoredTable :=
  catalog.tables.filter (·.temporary == temporary)

def tableIn? (catalog : Catalog) (temporary : Bool) (name : String) : Option StoredTable :=
  (catalog.database temporary).find? fun table => Text.sameLetters table.name name

def hasTable (catalog : Catalog) (temporary : Bool) (name : String) : Bool :=
  (catalog.tableIn? temporary name).isSome

/-- The table of a name; a temporary one hides another. -/
def table? (catalog : Catalog) (name : String) : Option StoredTable :=
  catalog.tableIn? true name <|> catalog.tableIn? false name

def hasIndex (catalog : Catalog) (temporary : Bool) (name : String) : Bool :=
  (catalog.database temporary).any fun table => table.indexes.any fun index => Text.sameLetters index.name name

def requireTable (catalog : Catalog) (name : String) : Except Refusal StoredTable :=
  match catalog.table? name with
  | some table => .ok table
  | none => .error (.noSuchTable name)

def replace (catalog : Catalog) (table changed : StoredTable) : Catalog :=
  { catalog with
    tables := catalog.tables.map fun other =>
      if other.temporary == table.temporary && other.name == table.name then changed else other }

/-- The table in which a database keeps the last numbers of the tables that number their rows. -/
def sequencesName : String := "sqlite_sequence"

def sequences (temporary : Bool) : StoredTable :=
  let column := fun name : String => (⟨name, .ofText [], []⟩ : ColumnDefinition)
  let source := (lexemes (sequencesName ++ "(name,seq)")).dropLast
  { definition := ⟨sequencesName, temporary, [column "name", column "seq"], none, source⟩ }

def createTable (catalog : Catalog) (unlessPresent : Bool) (definition : TableDefinition) :
    Except Refusal Catalog := do
  let ⟨name, temporary, _, _, _⟩ := definition
  refuseIf (isInternal name) (.reservedName name)
  if catalog.hasTable temporary name then
    if unlessPresent then return catalog else throw (.nameTaken name)
  refuseIf (catalog.hasIndex temporary name) (.nameTaken name)
  checkTable definition
  let table : StoredTable := { definition }
  let internal :=
    if table.autoIncrements && !catalog.hasTable temporary sequencesName then [sequences temporary] else []
  return { catalog with tables := catalog.tables ++ [table] ++ internal }

/-- An index that allows no values twice is refused if there are some. -/
def createIndex (catalog : Catalog) (unlessPresent : Bool) (tableName : String) (index : IndexDefinition) :
    Except Refusal Catalog := do
  let table ← catalog.requireTable tableName
  refuseIf (isInternal index.name) (.reservedName index.name)
  refuseIf (isInternal table.name) (.reservedName table.name)
  refuseIf (catalog.hasTable table.temporary index.name) (.nameTaken index.name)
  if catalog.hasIndex table.temporary index.name then
    if unlessPresent then return catalog else throw (.nameTaken index.name)
  refuseIf (greatestWidth < index.parts.length) (.tooManyColumns index.name)
  match table.misses? index with
  | some column => throw (.noSuchColumn column)
  | none => pure ()
  refuseIf (index.unique && !table.isUniqueUnder index.parts) (.repeatedValue table.name)
  return catalog.replace table { table with indexes := table.indexes ++ [index] }

def addColumn (catalog : Catalog) (tableName : String) (column : ColumnDefinition) (source : List Lexeme) :
    Except Refusal Catalog := do
  let table ← catalog.requireTable tableName
  refuseIf (isInternal table.name) (.reservedName table.name)
  return catalog.replace table (← table.addColumn column source)

def renameSequences (oldName newName : String) (table : StoredTable) : StoredTable :=
  if table.name != sequencesName then table
  else
    { table with
      rows := table.rows.map fun row =>
        if row.head? == some (.text oldName) then row.set 0 (.text newName) else row }

/-- An index is looked up by the name of its table, so one whose table is hidden must be possible on
the table that hides it. -/
def checkHidden (tables : List StoredTable) : Except Refusal Unit :=
  let (temporary, lasting) := tables.partition (·.temporary)
  lasting.forM fun table =>
    match temporary.find? fun other => Text.sameLetters other.name table.name with
    | none => .ok ()
    | some other =>
      match table.indexes.findSome? other.misses? with
      | some column => .error (.noSuchColumn column)
      | none => .ok ()

def rename (catalog : Catalog) (tableName newName : String) : Except Refusal Catalog := do
  let table ← catalog.requireTable tableName
  refuseIf (catalog.hasTable table.temporary newName || catalog.hasIndex table.temporary newName)
    (.nameTaken newName)
  refuseIf (isInternal table.name) (.reservedName table.name)
  refuseIf (isInternal newName) (.reservedName newName)
  let tables ← catalog.tables.mapM fun other =>
    if other.temporary == table.temporary then
      (other.renamed table.name newName).map (renameSequences table.name newName)
    else .ok other
  if !table.temporary then checkHidden tables
  return { catalog with tables }

end Catalog

end Relmap
