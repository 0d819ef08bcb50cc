import Relmap.Catalog
import Relmap.Catalog.Insertion
import Relmap.Text.Blank

/-! Carrying out statements that are given as text, one after the other. A part of the database that stands in for SQLite;
no theorem is about it. -/

namespace Relmap.Catalog

def isSequenceOf (table : StoredTable) (row : List Cell) : Bool :=
  row.head? == some (.text table.name)

def lastNumber (sequences table : StoredTable) : Int :=
  ((sequences.rows.find? (isSequenceOf table)).map fun row => toInteger (row.getD 1 .null)).getD 0

def withLastNumber (sequences table : StoredTable) (last : Int) : StoredTable :=
  let kept : List Cell := [.text table.name, .integer (Int64.ofInt last)]
  match sequences.rows.findIdx? (isSequenceOf table) with
  | some index => { sequences with rows := sequences.rows.set index kept }
  | none => { sequences with rows := sequences.rows ++ [kept] }

def insert (catalog : Catalog) (tableName : String) (rows : List (List Constant)) :
    Except Refusal Catalog := do
  let table ← catalog.requireTable tableName
  refuseIf (rows.any (·.length != table.columns.length)) (.valueCount table.name)
  let values ← rows.mapM evaluate
  let sequences? :=
    if table.autoIncrements then catalog.tableIn? table.temporary sequencesName else none
  let start : Insertion :=
    { tables := catalog.database table.temporary, table, last := sequences?.map (lastNumber · table) }
  let done ← start.all values
  let changed := catalog.replace table done.table
  match sequences?, done.last with
  | some sequences, some number =>
    return changed.replace sequences (withLastNumber sequences table number)
  | _, _ => return changed

def run (catalog : Catalog) : Statement → Except Refusal Catalog
  | .createTable unlessPresent definition => catalog.createTable unlessPresent definition
  | .createIndex unlessPresent table index => catalog.createIndex unlessPresent table index
  | .addColumn table column source => catalog.addColumn table column source
  | .rename table newName => catalog.rename table newName
  | .insert table rows => catalog.insert table rows

/-- The statements of a text, one after the other. What was carried out before a refusal stays. -/
def runAll (catalog : Catalog) : List (List Lexeme) → Except Refusal Unit × Catalog
  | [] => (.ok (), catalog)
  | text :: rest =>
    if isOver text then runAll catalog rest
    else
      match statement? text with
      | none => (.error .malformed, catalog)
      | some statement =>
        match catalog.run statement with
        | .ok changed => runAll changed rest
        | .error refusal => (.error refusal, catalog)

def execute (catalog : Catalog) (sql : String) : Except Refusal Unit × Catalog :=
  catalog.runAll (splitStatements (lexemes (Text.trimmed sql)))

/-- What statements leave behind, one after the other, refused or not. Temporary tables do not
outlive them. -/
def ofStatements (statements : List String) : Catalog :=
  let whole : Catalog := statements.foldl (fun catalog sql => (catalog.execute sql).2) {}
  ⟨whole.database false⟩

end Relmap.Catalog
