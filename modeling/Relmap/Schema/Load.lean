import Relmap.Catalog.Driver
import Relmap.Code.Source
import Relmap.Schema.Directory
import Relmap.Schema.Replay

/-! From the files of a schema, or from a database that has one, to its tables and to the code for
them. The database is the one of `Relmap.Catalog`, which stands in for SQLite. -/

namespace Relmap.Schema

inductive Source where
  | directory (root : String) (found : Except FileFault Tree)
  | snapshot (path : String) (found : Except FileFault Tree)

structure Loaded where
  tables : List Table
  /-- Only statements that were replayed have a report. -/
  report : Option Report

def tablesOf (catalog : Catalog) : Except SchemaError (List Table) :=
  Except.mapError .database ((introspect Catalog.driver).run catalog).1

def loadStatements (statements : List String) : Except SchemaError Loaded := do
  let (report, catalog) := (replay Catalog.driver statements).run {}
  return ⟨← tablesOf catalog, some report⟩

def load (settings : Settings) : Source → Except SchemaError Loaded
  | .directory root found => do loadStatements (← readDdl settings root found)
  | .snapshot path found =>
    match found with
    | .ok (.file content) =>
      match content.catalog? with
      | some catalog => do return ⟨← tablesOf catalog, none⟩
      | none => .error (.database ⟨"file is not a database"⟩)
    | _ => .error (.snapshotNotFound path)

def generate (settings : Settings) (source : Source) : Except SchemaError String := do
  Code.render (← load settings source).tables settings

end Relmap.Schema
