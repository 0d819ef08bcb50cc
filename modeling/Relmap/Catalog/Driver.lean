import Relmap.Catalog.Execution
import Relmap.Driver
import Relmap.Schema.Introspection

/-! A database that holds a schema, as a driver. It runs the statements that build the schema, and
of queries it answers the two that read a schema back. Like the catalog itself it stands in for SQLite when the program is
run, and no theorem is about it. -/

namespace Relmap.Catalog

/-- Tables that a database or its host platform keeps for itself are not listed. A name that begins
like one of the database's own is taken for one if any character follows. -/
def isListed (table : StoredTable) : Bool :=
  let lowered := Text.lower table.name.toList
  !table.definition.temporary && !("sqlite".toList.isPrefixOf lowered && 6 < lowered.length)
    && table.name != "android_metadata"

def tableRows (catalog : Catalog) : List StoredRow :=
  let listed := catalog.tables.filter isListed
  (listed.mergeSort fun first second => first.name ≤ second.name).map fun table =>
    [.text table.name, .text table.createText]

/-- A table that does not exist has no columns. -/
def columnRows (catalog : Catalog) (name : String) : List StoredRow :=
  ((catalog.table? name).map (·.columnRows)).getD []

def driver : Driver Catalog where
  query sql _ bindings := do
    let catalog ← get
    if sql == Schema.tablesQuery then return .ok catalog.tableRows
    else if sql == Schema.columnsQuery then
      match bindings with
      | (_, .string name) :: _ => return .ok (catalog.columnRows name)
      | _ => return .ok []
    else return .error ⟨Refusal.malformed.message⟩
  statement sql _ _ := do
    let (outcome, changed) := (← get).execute sql
    set changed
    match outcome with
    | .ok () => return .ok 0
    | .error refusal => return .error ⟨refusal.message⟩

end Relmap.Catalog
