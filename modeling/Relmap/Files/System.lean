import Relmap.Files
import Relmap.Files.Path

/-! A tree that programs reach by paths. A path is followed name by name: each name must be that of
something that is there, and two dots lead to the directory above the place that was reached, not to
the name before. -/

namespace Relmap

structure FileSystem where
  root : Tree
  /-- The directory at which paths begin that do not begin at the root, by its names. -/
  here : List String
  deriving Inhabited

namespace FileSystem

/-- The names of a place from the last to the first. The root, which has none, is its own directory
above. -/
abbrev Place := List String

def tree? (system : FileSystem) (place : Place) : Option Tree := system.root.below? place.reverse

/-- In bytes. -/
def longestName : Nat := 255

/-- In bytes. -/
def longestPath : Nat := 4095

def entries (system : FileSystem) (place : Place) : Except FileFault (List (String × Tree)) :=
  match system.tree? place with
  | some (.directory entries) => .ok entries
  | some (.file _) => .error .notDirectory
  | none => .error .notFound

def step (system : FileSystem) (place : Place) (name : String) : Except FileFault Place := do
  let entries ← system.entries place
  if name == ".." then return place.drop 1
  if longestName < name.utf8ByteSize then throw .nameTooLong
  if (entries.lookup name).isSome then return name :: place else throw .notFound

def start (system : FileSystem) (path : String) : Except FileFault Place := do
  if path.toList.contains '\x00' then throw .zeroInName
  if path.isEmpty then throw .notFound
  if longestPath < path.utf8ByteSize then throw .nameTooLong
  return if Path.isAbsolute path then [] else system.here.reverse

def locate (system : FileSystem) (path : String) : Except FileFault Place := do
  (Path.parts path).foldlM system.step (← system.start path)

/-- The place of the last name of a path, which need not be there, and that name. -/
def locateParent (system : FileSystem) (path : String) :
    Except FileFault (Place × Option String) := do
  let place ← (Path.parts path).dropLast.foldlM system.step (← system.start path)
  let _ ← system.entries place
  return (place, Path.fileName? path)

def find (system : FileSystem) (path : String) : Except FileFault Tree := do
  match system.tree? (← system.locate path) with
  | some (.file content) => if Path.asksDirectory path then throw .notDirectory else return .file content
  | some found => return found
  | none => throw .notFound

def hasDirectory (system : FileSystem) (path : String) : Bool :=
  match system.find path with
  | .ok (.directory _) => true
  | _ => false

def assign (system : FileSystem) (place : Place) (tree : Tree) : FileSystem :=
  { system with root := Tree.put tree place.reverse system.root }

def makeDirectory (system : FileSystem) (path : String) : Except FileFault FileSystem := do
  match ← system.locateParent path with
  | (_, none) => throw .alreadyThere
  | (place, some name) =>
    if longestName < name.utf8ByteSize then throw .nameTooLong
    if (system.tree? (name :: place)).isSome then throw .alreadyThere
    return system.assign (name :: place) (.directory [])

def requireDirectory (system : FileSystem) (path : String) : Except FileFault FileSystem :=
  match system.makeDirectory path with
  | .error .alreadyThere => if system.hasDirectory path then .ok system else .error .alreadyThere
  | outcome => outcome

/-- Makes the directory that a path names with its first names, and those above it that are missing,
from the longest upwards until one is there. -/
def makeDirectories (system : FileSystem) (path : String) : (length : Nat) → Except FileFault FileSystem
  | 0 => .ok system
  | length + 1 =>
    let start := if Path.isAbsolute path then "/" else ""
    let upTo := start ++ "/".intercalate ((Path.parts path).take (length + 1))
    match system.requireDirectory upTo with
    | .error .notFound => do (← makeDirectories system path length).requireDirectory upTo
    | outcome => outcome

def withDirectory (system : FileSystem) (path : String) : Except FileFault FileSystem :=
  system.makeDirectories path (Path.parts path).length

def withFile (system : FileSystem) (path : String) (content : Content) :
    Except FileFault FileSystem := do
  match ← system.locateParent path with
  | (_, none) => throw .isDirectory
  | (place, some name) =>
    if longestName < name.utf8ByteSize then throw .nameTooLong
    if Path.asksDirectory path || (system.entries (name :: place)).isOk then throw .isDirectory
    return system.assign (name :: place) (.file content)

end FileSystem

end Relmap
