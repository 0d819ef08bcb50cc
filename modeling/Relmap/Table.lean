import Relmap.Affinity

/-! Tables as a query sees them: a name, the type id of the entity that they back, and columns in
the order in which they are selected. -/

namespace Relmap

structure Column where
  name : String
  affinity : Affinity
  nullable : Bool
  default : Option String
  /-- Position in the primary key, from 1; 0 outside it. -/
  keyOrdinal : UInt32
  autoIncrement : Bool
  deriving DecidableEq, Inhabited

def Column.isKey (column : Column) : Bool := column.keyOrdinal > 0

structure Table where
  name : String
  typeId : String
  columns : List Column
  deriving DecidableEq, Inhabited

namespace Table

def columnNames (table : Table) : List String := table.columns.map (·.name)

def column? (table : Table) (name : String) : Option Column := table.columns.find? (·.name == name)

/-- Key columns by their position in the key; equal positions keep the order of declaration. -/
def primaryKey (table : Table) : List Column :=
  (table.columns.filter (·.isKey)).mergeSort fun first second => first.keyOrdinal ≤ second.keyOrdinal

end Table

inductive RegistryError where
  | unknownTypeId (typeId : String)
  | notInstalled
  | alreadyInstalled
  deriving DecidableEq

def RegistryError.message : RegistryError → String
  | .unknownTypeId typeId => "table meta not found for type id '" ++ typeId ++ "'"
  | .notInstalled => "ORM registry is not installed; call the generated init() at startup"
  | .alreadyInstalled => "ORM registry is already installed"

abbrev Registry := List Table

namespace Registry

def byTypeId (registry : Registry) (typeId : String) : Option Table := registry.find? (·.typeId == typeId)

def resolve (registry : Registry) (typeId : String) : Except RegistryError Table :=
  match registry.byTypeId typeId with
  | some table => .ok table
  | none => .error (.unknownTypeId typeId)

end Registry

/-- The registry of a process. It is installed once and never replaced. -/
abbrev Installation := Option Registry

namespace Installation

def install (current : Installation) (registry : Registry) : Except RegistryError Unit × Installation :=
  match current with
  | none => (.ok (), some registry)
  | some _ => (.error .alreadyInstalled, current)

def registry (current : Installation) : Except RegistryError Registry :=
  match current with
  | some registry => .ok registry
  | none => .error .notInstalled

/-- Before the installation every look-up fails in the same way, whatever the type id. -/
def resolve (current : Installation) (typeId : String) : Except RegistryError Table := do
  (← current.registry).resolve typeId

end Installation

end Relmap
