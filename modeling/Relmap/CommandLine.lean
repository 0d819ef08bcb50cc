import Relmap.CommandLine.Help
import Relmap.Files.System
import Relmap.Json.Pretty
import Relmap.Schema.Document
import Relmap.Schema.Load
import Relmap.Settings.Reading

/-! The command line: arguments in, a text and an exit status out. What it does to files goes
through a disk, which may be the real one or a file system in memory. -/

namespace Relmap

structure Disk (m : Type → Type) where
  /-- The file, or the directory with all that is below it. -/
  find : String → m (Except FileFault Tree)
  /-- Makes a directory and those above it, unless they are there. -/
  makeDirectories : String → m (Except FileFault Unit)
  write : String → String → m (Except FileFault Unit)

def Disk.change (request : FileSystem → Except FileFault FileSystem) :
    StateM FileSystem (Except FileFault Unit) := do
  match request (← get) with
  | .ok changed => set changed; return .ok ()
  | .error fault => return .error fault

def Disk.ofFileSystem : Disk (StateM FileSystem) where
  find path := return (← get).find path
  makeDirectories path := change (·.withDirectory path)
  write path text := change (·.withFile path (.bytes text.toUTF8.toList))

namespace CommandLine

structure Outcome where
  status : Nat
  output : String := ""
  /-- Only a failed run has one; misuse of the command line is told apart by its status. -/
  error : Option String := none
  deriving DecidableEq

variable {m : Type → Type} [Monad m]

def onDisk {α : Type} (words : FileFault → String) (action : m (Except FileFault α)) :
    ExceptT String m α :=
  ExceptT.mk (Except.mapError words <$> action)

def step {α : Type} (result : Except SchemaError α) : ExceptT String m α :=
  ExceptT.mk (pure (result.mapError SchemaError.message))

def settingsOf (disk : Disk m) : Option String → ExceptT String m Settings
  | none => return {}
  | some path => do
    let found ← disk.find path
    ExceptT.mk (pure ((Settings.load path found).mapError fun _ => "loading config " ++ path))

/-- A snapshot goes before a directory. -/
def sourceOf (disk : Disk m) (invocation : Invocation) : ExceptT String m Schema.Source :=
  match invocation.snapshot, invocation.schemaDir with
  | some path, _ => return .snapshot path (← disk.find path)
  | none, some root => return .directory root (← disk.find root)
  | none, none => throw "either --schema-dir or --snapshot is required"

/-- The directory of a file is made if the path names one. -/
def writeOutput (disk : Disk m) (path text : String) : ExceptT String m Unit := do
  let parent := Path.parent path
  if parent != "" then onDisk FileFault.message (disk.makeDirectories parent)
  onDisk (fun _ => "writing " ++ path) (disk.write path text)

def perform (disk : Disk m) (invocation : Invocation) : ExceptT String m String := do
  let settings ← settingsOf disk invocation.settings
  let source ← sourceOf disk invocation
  match invocation.command with
  | .generate =>
    let code ← step (Schema.generate settings source)
    match invocation.output with
    | none => return code
    | some path =>
      writeOutput disk path code
      return ""
  | .inspect =>
    let loaded ← step (Schema.load settings source)
    return (Json.array (loaded.tables.map (·.toJson))).pretty ++ "\n"
  | .ddl =>
    match source with
    | .snapshot _ _ => throw "ddl needs --schema-dir; a snapshot has no DDL files"
    | .directory root found =>
      let statements ← step (Schema.readDdl settings root found)
      return String.join (statements.map (· ++ "\n"))

def run (disk : Disk m) (environment : Option String) (arguments : List String) : m Outcome := do
  match parse environment arguments with
  | .error .misuse => return { status := 2 }
  | .error (.help topic) => return { status := 0, output := helpText environment topic }
  | .error .version => return { status := 0, output := versionText }
  | .ok invocation =>
    match ← (perform disk invocation).run with
    | .ok output => return { status := 0, output }
    | .error message => return { status := 1, error := some ("Error: " ++ message) }

end CommandLine

end Relmap
