import Relmap.Table
import Relmap.Text.Capital

/-! Tables as a schema declares them. A column keeps the type that it was declared with, and what a
query needs to know of it follows from the declaration. -/

namespace Relmap.Schema

structure Column where
  name : String
  /-- As written, without the blanks around it. -/
  declaredType : Option String
  nullable : Bool := true
  /-- The text of the default expression. -/
  default : Option String := none
  /-- Position in the primary key, from 1; 0 outside it. -/
  keyOrdinal : UInt32 := 0
  autoIncrement : Bool := false
  deriving DecidableEq, Inhabited

namespace Column

/-- A type that is blank is no type. -/
def declared (name : String) (type : Option String) : Column where
  name
  declaredType := (type.map Text.trimmed).filter (· != "")

def affinity (column : Column) : Affinity := .ofDeclared column.declaredType

def isKey (column : Column) : Bool := column.keyOrdinal > 0

def toColumn (column : Column) : Relmap.Column where
  name := column.name
  affinity := column.affinity
  nullable := column.nullable
  default := column.default
  keyOrdinal := column.keyOrdinal
  autoIncrement := column.autoIncrement

end Column

structure Table where
  name : String
  columns : List Column
  deriving DecidableEq, Inhabited

namespace Table

/-- Entities are named like types, so the first character of the table's name is a capital. -/
def typeId (table : Table) : String := Text.capitalized table.name

/-- Key columns by their position in the key; equal positions keep the order of declaration. -/
def primaryKey (table : Table) : List Column :=
  (table.columns.filter (·.isKey)).mergeSort fun first second => first.keyOrdinal ≤ second.keyOrdinal

/-- Only a column that is the whole key, at its first position and of integer affinity, can number
its rows. -/
def autoIncrementCandidate (table : Table) : Option Column :=
  match table.primaryKey with
  | [only] => if only.keyOrdinal == 1 && only.affinity == .integer then some only else none
  | _ => none

def toTable (table : Table) : Relmap.Table where
  name := table.name
  typeId := table.typeId
  columns := table.columns.map (·.toColumn)

end Table

end Relmap.Schema
