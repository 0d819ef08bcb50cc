import Relmap.CommandLine

/-! The program itself: the command line over the files of the machine. -/

namespace Relmap.Main

def faultOf : IO.Error → FileFault
  | .noFileOrDirectory .. => .notFound
  | .alreadyExists .. => .alreadyThere
  | error => .other (toString error)

def attempt {α : Type} (action : IO α) : IO (Except FileFault α) := do
  try return .ok (← action) catch error => return .error (faultOf error)

/-- Paths that do not begin at the root begin at the working directory. -/
partial def loadTree (path : String) : IO Tree := do
  let place := (← IO.currentDir) / path
  if ← place.isDir then
    let entries ← (← place.readDir).toList.mapM fun entry => do
      return (entry.fileName, ← loadTree (Path.join path [entry.fileName]))
    return .directory entries
  else return .file (.bytes (← IO.FS.readBinFile place).toList)

def machine : Disk IO where
  find path := attempt (loadTree path)
  makeDirectories path := attempt (IO.FS.createDirAll path)
  write path text := attempt (IO.FS.writeFile path text)

def runProgram (arguments : List String) : IO UInt32 := do
  let environment ← IO.getEnv CommandLine.directoryVariable
  let outcome ← CommandLine.run machine environment arguments
  IO.print outcome.output
  if outcome.status == 2 then IO.eprint (CommandLine.helpText environment .program)
  match outcome.error with
  | some message => IO.eprintln message
  | none => pure ()
  return UInt32.ofNat outcome.status

end Relmap.Main

def main (arguments : List String) : IO UInt32 := Relmap.Main.runProgram arguments
