import Relmap.Text.Line

/-! Paths as texts. Names are separated by slashes, several slashes count as one, and a single dot
names the place where it stands. -/

namespace Relmap.Path

/-- The names of a path from left to right, without dots that lead nowhere. -/
def parts (path : String) : List String :=
  ((Text.split '/' path.toList).map String.ofList).filter fun part => part != "" && part != "."

def isAbsolute (path : String) : Bool := path.toList.head? == some '/'

/-- The last name, unless it leads to the directory above. -/
def fileName? (path : String) : Option String := (parts path).getLast?.filter (· != "..")

/-- What follows the last dot of a name. A dot at its beginning is part of the name. -/
def nameExtension? (name : String) : Option String :=
  let reversed := name.toList.reverse
  match reversed.dropWhile (· != '.') with
  | _ :: _ :: _ => some (String.ofList (reversed.takeWhile (· != '.')).reverse)
  | _ => none

def extension? (path : String) : Option String := (fileName? path).bind nameExtension?

def join (root : String) (below : List String) : String :=
  if below.isEmpty then root
  else
    let separator := if root.toList.getLast?.all (· == '/') then "" else "/"
    root ++ separator ++ "/".intercalate below

def parent (path : String) : String :=
  (if isAbsolute path then "/" else "") ++ "/".intercalate (parts path).dropLast

/-- Whether the path can only mean a directory. -/
def asksDirectory (path : String) : Bool :=
  match (Text.split '/' path.toList).getLast? with
  | some last => last == [] || last == ['.']
  | none => false

/-- Directories come before what is in them, and each name counts before those below it: `a/b` is
before `a.b`, although the dot is before the slash. -/
def before : List String → List String → Bool
  | [], _ => true
  | _ :: _, [] => false
  | first :: rest, other :: others => first < other || (first == other && before rest others)

end Relmap.Path
