import Relmap.Execution
import Relmap.Page

/-! Selecting, counting and paging. Each query compiles its statement first, so a condition that has
no meaning never reaches the driver. -/

namespace Relmap

structure Selection where
  condition : Option Condition := none
  order : List Order := []

variable {σ α : Type}

namespace Driver

def selectRows (driver : Driver σ) (table : Table) (selection : Selection) (window : Option Window) :
    Session σ (List Row) := do
  let statement ← Session.lift .condition (table.select selection.condition selection.order window)
  driver.executeSelect table statement

/-- All rows are fetched before the first is mapped; the first row that does not map is the error.
-/
def selectMapped (driver : Driver σ) (table : Table) (mapper : Mapper α) (selection : Selection)
    (window : Option Window) : Session σ (List α) := do
  let rows ← driver.selectRows table selection window
  Session.lift .read (rows.mapM mapper)

def selectIn (driver : Driver σ) (registry : Registry) (entity : Entity α) (selection : Selection)
    (window : Option Window) : Session σ (List α) := do
  let table ← Session.lift .registry (registry.resolve entity.typeId)
  driver.selectMapped table entity.read selection window

def select (driver : Driver σ) (installed : Installation) (entity : Entity α) (selection : Selection)
    (window : Option Window) : Session σ (List α) := do
  driver.selectIn (← Session.lift .registry installed.registry) entity selection window

/-- A negative count reads as 0. -/
def count (driver : Driver σ) (table : Table) (condition : Option Condition) : Session σ UInt64 := do
  let clause ← Session.lift .condition (WhereClause.ofCondition condition)
  let number ← driver.executeScalar (clause.count table.name)
  return UInt64.ofNat number.toInt.toNat

/-- The rows of the page come first; they are counted only after all of them mapped. -/
def pageMapped (driver : Driver σ) (table : Table) (mapper : Mapper α) (selection : Selection)
    (request : PageRequest) : Session σ (Page α) := do
  let items ← driver.selectMapped table mapper selection (some request.window)
  let total ← if request.includeTotal then some <$> driver.count table selection.condition else pure none
  Session.lift .stopped (Page.of items request.window total)

def pageRows (driver : Driver σ) (table : Table) (selection : Selection) (request : PageRequest) :
    Session σ (Page Row) :=
  driver.pageMapped table .ok selection request

def page (driver : Driver σ) (installed : Installation) (entity : Entity α) (selection : Selection)
    (request : PageRequest) : Session σ (Page α) := do
  let registry ← Session.lift .registry installed.registry
  let table ← Session.lift .registry (registry.resolve entity.typeId)
  driver.pageMapped table entity.read selection request

end Driver

end Relmap
