import Relmap.Catalog.ColumnType
import Relmap.Catalog.Constant

/-! Statements that change a schema or add rows. A table keeps the words that define it, because a
database gives them back as they were written. -/

namespace Relmap.Catalog

inductive Constraint where
  | primaryKey (autoIncrement : Bool)
  | notNull
  /-- Null is allowed, as it is without these words. -/
  | nullable
  | unique
  /-- As written, and what is meant. -/
  | default (expression : String) (value : Constant)
  /-- Columns need not be named. -/
  | references (table : String) (columns : List String)
  deriving DecidableEq, Inhabited

structure ColumnDefinition where
  name : String
  type : ColumnType
  constraints : List Constraint
  deriving DecidableEq, Inhabited

structure TableDefinition where
  name : String
  temporary : Bool
  columns : List ColumnDefinition
  /-- The columns of a primary key that stands apart from them. -/
  key : Option (List String)
  /-- From the name on, as written. -/
  source : List Lexeme
  deriving Inhabited

/-- An index on a table. A part that names no column is the same for every row, if it need not name
one. -/
structure IndexDefinition where
  name : String
  unique : Bool
  parts : List String
  /-- Of the parts, those that must name a column. -/
  columns : List String
  deriving DecidableEq, Inhabited

inductive Statement where
  | createTable (unlessPresent : Bool) (table : TableDefinition)
  | createIndex (unlessPresent : Bool) (table : String) (index : IndexDefinition)
  | addColumn (table : String) (column : ColumnDefinition) (source : List Lexeme)
  | rename (table newName : String)
  | insert (table : String) (rows : List (List Constant))
  deriving Inhabited

namespace ColumnDefinition

def isKey (column : ColumnDefinition) : Bool := column.constraints.any (· matches .primaryKey _)

def autoIncrements (column : ColumnDefinition) : Bool := column.constraints.contains (.primaryKey true)

def notNull (column : ColumnDefinition) : Bool := column.constraints.contains .notNull

/-- A table of which the column refers to more than one column. -/
def overReferenced? (column : ColumnDefinition) : Option String :=
  column.constraints.findSome? fun
    | .references table columns => if 1 < columns.length then some table else none
    | _ => none

def isUnique (column : ColumnDefinition) : Bool := column.constraints.contains .unique

/-- The last of several defaults counts. -/
def default? (column : ColumnDefinition) : Option (String × Constant) :=
  column.constraints.reverse.findSome? fun
    | .default expression value => some (expression, value)
    | _ => none

/-- The tables to which the column refers, each with the column there if it is named. -/
def references (column : ColumnDefinition) : List (String × Option String) :=
  column.constraints.filterMap fun
    | .references table columns => some (table, columns.head?)
    | _ => none

end ColumnDefinition

end Relmap.Catalog
