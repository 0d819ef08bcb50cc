import Relmap.Catalog.Reference

/-! Rows that one statement adds. All are added or none; the references among them need to be met
only when the last one is there. -/

namespace Relmap.Catalog

/-- Rows that are added by one statement, up to some row. -/
structure Insertion where
  /-- Of one database. -/
  tables : List StoredTable
  table : StoredTable
  /-- The last number that was given to a row, if that is kept. -/
  last : Option Int
  /-- References that are still to be met. -/
  pending : Int := 0

namespace Insertion

/-- One row more. Only where there are several can a row be what another one waits for, and only
there references to the table are looked at. -/
def step (several : Bool) (insertion : Insertion) (values : List Cell) : Except Refusal Insertion := do
  let ⟨tables, table, last, count⟩ := insertion
  let changed ← table.insertRow last values
  let row := changed.rows.getLast?.getD []
  let missing ← unmet tables table row
  let referring ← if several then referencesTo tables table else pure []
  return {
    tables := tables.map fun other => if other.name == table.name then changed else other
    table := changed
    last := last.map changed.lastAfter
    pending := referring.foldl (meet table row) (count + missing) }

def all (insertion : Insertion) (rows : List (List Cell)) : Except Refusal Insertion := do
  let done ← rows.foldlM (step (1 < rows.length)) insertion
  refuseIf (0 < done.pending) .noSuchRow
  return done

end Insertion

end Relmap.Catalog
