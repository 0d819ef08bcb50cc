import Relmap.Driver
import Relmap.Row
import Relmap.Statement.Select

/-! Running statements: arguments are bound by position, rows come back by position, and each cell
is decoded as the affinity of its column asks. -/

namespace Relmap

inductive QueryError where
  | condition (error : ConditionError)
  | read (error : ReadError)
  | registry (error : RegistryError)
  | database (error : DriverError)
  | notFound
  | multipleObjects
  /-- Not reported to the caller: the whole program stops. -/
  | stopped (fault : WordFault)
  deriving DecidableEq

def QueryError.message : QueryError → String
  | .condition error => error.message
  | .read error => error.message
  | .registry error => error.message
  | .database error => error.message
  | .notFound => "object not found"
  | .multipleObjects => "multiple objects returned when one was expected"
  | .stopped fault => fault.message

abbrev Session (σ : Type) := Exchange QueryError σ

namespace Session

variable {σ α ε : Type}

def lift (wrap : ε → QueryError) : Except ε α → Session σ α
  | .ok value => pure value
  | .error error => throw (wrap error)

def request (answer : StateM σ (Except DriverError α)) : Session σ α :=
  ExceptT.mk (Except.mapError QueryError.database <$> answer)

end Session

namespace StoredRow

/-- The first reading that succeeds. None of them converts from a class that comes later, so this is the class in which
the cell is stored. -/
def stored? (row : StoredRow) (index : Nat) : Option Cell :=
  (row.long? index).map .integer <|> (row.double? index).map .real <|> (row.string? index).map .text
    <|> (row.bytes? index).map .blob

def convert (row : StoredRow) (index : Nat) : Affinity → Option Cell
  | .integer => (row.long? index).map .integer
  | .real => (row.double? index).map .real
  | .text | .numeric => (row.string? index).map .text
  | .blob => (row.bytes? index).map .blob
  | .unknown => none

/-- A cell that does not convert to the class of the affinity keeps its own. -/
def decodeCell (row : StoredRow) (index : Nat) (affinity : Affinity) : Cell :=
  (row.convert index affinity <|> row.stored? index).getD .null

/-- One entry for each column of the table, in its order. Cells past them are not looked at. -/
def decode (row : StoredRow) (table : Table) : Row :=
  ⟨table.columns.zipIdx.map fun (column, index) => (column.name, row.decodeCell index column.affinity)⟩

end StoredRow

namespace Driver

variable {σ : Type}

def rows (driver : Driver σ) (statement : Statement) : Session σ (List StoredRow) :=
  .request (driver.query statement.sql statement.arguments.length (bindings statement.arguments))

def executeSelect (driver : Driver σ) (table : Table) (statement : Statement) : Session σ (List Row) := do
  return (← driver.rows statement).map (·.decode table)

/-- The first cell of the first row. No row counts as 0, and so does a cell that is no integer. -/
def executeScalar (driver : Driver σ) (statement : Statement) : Session σ Int64 := do
  return ((← driver.rows statement).head?.bind (·.long? 0)).getD 0

def execute (driver : Driver σ) (sql : String) : Session σ UInt64 :=
  .request (driver.statement sql 0 [])

end Driver

end Relmap
