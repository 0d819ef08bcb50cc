import Relmap.Driver

/-! Running the statements of a schema one after the other. One that fails is left out and reported,
and the next one is tried all the same. -/

namespace Relmap.Schema

structure Skipped where
  /-- Among all statements, from 0. -/
  index : Nat
  sql : String
  error : String
  deriving DecidableEq

structure Report where
  applied : Nat
  skipped : List Skipped
  deriving DecidableEq

def Report.of (outcomes : List (String × Except DriverError UInt64)) : Report where
  applied := outcomes.countP (·.2.isOk)
  skipped := outcomes.zipIdx.filterMap fun ((sql, outcome), index) =>
    match outcome with
    | .ok _ => none
    | .error error => some ⟨index, sql, error.message⟩

def replay {σ : Type} (driver : Driver σ) (statements : List String) : StateM σ Report := do
  let outcomes ← statements.mapM fun sql => return (sql, ← driver.statement sql 0 [])
  return Report.of outcomes

end Relmap.Schema
