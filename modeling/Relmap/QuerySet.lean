import Relmap.Query

/-! Queries that are put together step by step and run at the end. A step never looks at the
database, and the same query can be run any number of times. -/

namespace Relmap

structure QuerySet (α : Type) where
  entity : Entity α
  /-- The registry to resolve the table in; the installed one where none is given. -/
  registry : Option Registry := none
  filters : List Condition := []
  excludes : List Condition := []
  order : List Order := []
  limit : Option UInt64 := none
  offset : Option UInt64 := none

namespace QuerySet

variable {σ α : Type}

def filter (query : QuerySet α) (condition : Condition) : QuerySet α :=
  { query with filters := query.filters ++ [condition] }

def exclude (query : QuerySet α) (condition : Condition) : QuerySet α :=
  { query with excludes := query.excludes ++ [condition] }

def orderBy (query : QuerySet α) (spec : String) : QuerySet α :=
  { query with order := query.order ++ [.parse spec] }

def limited (query : QuerySet α) (limit : UInt64) : QuerySet α := { query with limit := some limit }

def skipping (query : QuerySet α) (offset : UInt64) : QuerySet α := { query with offset := some offset }

/-- Filters come first, then the negation of each exclusion; nothing at all filters no rows. -/
def condition (query : QuerySet α) : Option Condition :=
  (Condition.allOf (query.filters ++ query.excludes.map .not)).toOption

/-- An offset needs a limit beside it, and the largest one bounds nothing. -/
def window (query : QuerySet α) : Option Window :=
  match query.limit, query.offset with
  | some limit, offset => some (.of limit (offset.getD 0))
  | none, some offset => some (.of 18446744073709551615 offset)
  | none, none => none

def selection (query : QuerySet α) : Selection := ⟨query.condition, query.order⟩

def table (query : QuerySet α) (installed : Installation) : Except RegistryError Table :=
  match query.registry with
  | some registry => registry.resolve query.entity.typeId
  | none => installed.resolve query.entity.typeId

/-- All rows are fetched before the first is read, and the first row that cannot be read is the error. -/
def fetch (query : QuerySet α) (installed : Installation) (driver : Driver σ) : Session σ (List α) := do
  let table ← Session.lift .registry (query.table installed)
  let statement ← Session.lift .condition (table.select query.condition query.order query.window)
  let rows ← driver.executeSelect table statement
  Session.lift .read (rows.mapM query.entity.read)

/-- Only one row is asked for. -/
def first (query : QuerySet α) (installed : Installation) (driver : Driver σ) : Session σ (Option α) := do
  return (← (query.limited 1).fetch installed driver).head?

/-- Two rows are asked for, which is enough to see that there is not exactly one. -/
def get (query : QuerySet α) (installed : Installation) (driver : Driver σ) : Session σ α := do
  match ← (query.limited 2).fetch installed driver with
  | [] => throw .notFound
  | [item] => return item
  | _ => throw .multipleObjects

/-- Order, limit and offset play no part in a count. -/
def count (query : QuerySet α) (installed : Installation) (driver : Driver σ) : Session σ UInt64 := do
  let table ← Session.lift .registry (query.table installed)
  driver.count table query.condition

def hasAny (query : QuerySet α) (installed : Installation) (driver : Driver σ) : Session σ Bool := do
  return (← query.count installed driver) > 0

/-- The bounds of the page replace the query's own. -/
def page (query : QuerySet α) (installed : Installation) (driver : Driver σ) (request : PageRequest) :
    Session σ (Page α) := do
  let table ← Session.lift .registry (query.table installed)
  driver.pageMapped table query.entity.read query.selection request

end QuerySet

end Relmap
