import Relmap.Ddl.Extract
import Relmap.Settings

/-! The files of a schema. They are taken from a directory and everything below it, in the order of
their paths, however the directories list them. -/

namespace Relmap.Schema

structure SourceFile where
  path : String
  content : Content

/-- Files below a directory whose extension is one of a schema's. Below the root, names count one by
one. -/
def sourceParts (settings : Settings) (tree : Tree) : List (List String × Content) :=
  let chosen := (tree.filesBelow []).filter fun (parts, _) =>
    (parts.getLast?.bind Path.nameExtension?).any settings.takes
  chosen.mergeSort fun first second => Path.before first.1 second.1

def sourceFiles (settings : Settings) (root : String) (found : Except FileFault Tree) :
    Except SchemaError (List SourceFile) :=
  match found with
  | .ok (.directory entries) =>
    .ok ((sourceParts settings (.directory entries)).map fun (parts, content) =>
      ⟨Path.join root parts, content⟩)
  | _ => .error (.directoryNotFound root)

/-- Statements file by file; the first file that is no text is the error. -/
def readDdl (settings : Settings) (root : String) (found : Except FileFault Tree) :
    Except SchemaError (List String) := do
  let files ← sourceFiles settings root found
  let statements ← files.mapM fun file =>
    match file.content.text with
    | .ok text => .ok (Ddl.extract text)
    | .error fault => .error (.unusable file.path fault)
  return statements.flatten

end Relmap.Schema
