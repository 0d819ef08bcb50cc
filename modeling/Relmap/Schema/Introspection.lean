import Relmap.Schema
import Relmap.Driver
import Relmap.Text.Mention

/-! Reading the tables of a database back from its own catalog: one query for the tables, then one
for the columns of each. -/

namespace Relmap.Schema

def tablesQuery : String :=
  "SELECT name, sql FROM sqlite_master WHERE type = 'table' AND name NOT LIKE 'sqlite_%' "
    ++ "AND name <> 'android_metadata' ORDER BY name"

def columnsQuery : String :=
  "SELECT cid, name, type, \"notnull\", dflt_value, pk FROM pragma_table_info(?) ORDER BY cid"

/-- A position in a key that does not fit a word counts as none. -/
def ordinalOf (number : Option Int64) : UInt32 :=
  match number with
  | some n => if 0 ≤ n.toInt && n.toInt < 0x100000000 then UInt32.ofNat n.toInt.toNat else 0
  | none => 0

def Column.ofStored (row : StoredRow) : Column :=
  { Column.declared ((row.string? 1).getD "") (row.string? 2) with
    nullable := (row.long? 3).getD 0 == 0
    default := row.string? 4
    keyOrdinal := ordinalOf (row.long? 5) }

/-- Only the first column of that name is flagged. -/
def flagColumn (name : String) : List Column → List Column
  | [] => []
  | column :: rest =>
    if column.name == name then { column with autoIncrement := true } :: rest
    else column :: flagColumn name rest

/-- The creating statement tells that a table numbers its rows; which column does so follows from
the key. -/
def Table.flagAutoIncrement (createText : String) (table : Table) : Table :=
  if Text.mentions (Text.upper createText.toList) "AUTOINCREMENT".toList then
    match table.autoIncrementCandidate with
    | some candidate => { table with columns := flagColumn candidate.name table.columns }
    | none => table
  else table

def Table.ofStored (name createText : String) (rows : List StoredRow) : Table :=
  Table.flagAutoIncrement createText ⟨name, rows.map Column.ofStored⟩

/-- The first failure of the driver ends it. A row without a name is passed over. -/
def introspect {σ : Type} (driver : Driver σ) : Exchange DriverError σ (List Table) := do
  let rows ← ExceptT.mk (driver.query tablesQuery 0 [])
  let named := rows.filterMap fun row => (row.string? 0).map (·, (row.string? 1).getD "")
  named.mapM fun (name, createText) => do
    let columns ← ExceptT.mk (driver.query columnsQuery 1 (bindings [.text name]))
    return Table.ofStored name createText columns

end Relmap.Schema
