import Relmap.Catalog

/-! Files and directories as a tree. A file holds bytes, or a database whose schema is known. -/

namespace Relmap

inductive FileFault where
  | notFound
  | alreadyThere
  | notDirectory
  | isDirectory
  | notText
  | nameTooLong
  /-- No name can hold the character with the code zero. -/
  | zeroInName
  | other (reason : String)
  deriving DecidableEq

def FileFault.message : FileFault → String
  | .notFound => "No such file or directory (os error 2)"
  | .alreadyThere => "File exists (os error 17)"
  | .notDirectory => "Not a directory (os error 20)"
  | .isDirectory => "Is a directory (os error 21)"
  | .notText => "stream did not contain valid UTF-8"
  | .nameTooLong => "File name too long (os error 36)"
  | .zeroInName => "file name contained an unexpected NUL byte"
  | .other reason => reason

inductive Content where
  | bytes (content : Bytes)
  | database (catalog : Catalog)
  deriving Inhabited

/-- Only UTF-8 reads as text. -/
def Content.text : Content → Except FileFault String
  | .bytes content =>
    match String.fromUTF8? (ByteArray.mk content.toArray) with
    | some text => .ok text
    | none => .error .notText
  | .database _ => .error .notText

/-- The schema in a file. A file with at most one byte in it is a database without a table. -/
def Content.catalog? : Content → Option Catalog
  | .bytes content => if content.length ≤ 1 then some {} else none
  | .database catalog => some catalog

inductive Tree where
  | file (content : Content)
  | directory (entries : List (String × Tree))
  deriving Inhabited

namespace Tree

def text : Tree → Except FileFault String
  | .file content => content.text
  | .directory _ => .error .isDirectory

def below? (tree : Tree) : List String → Option Tree
  | [] => some tree
  | name :: rest =>
    match tree with
    | .file _ => none
    | .directory entries => (entries.lookup name).bind (below? · rest)

mutual

/-- Every file of a tree with the names that lead to it, in the order in which directories list
them. -/
def filesBelow (path : List String) : Tree → List (List String × Content)
  | .file content => [(path, content)]
  | .directory entries => filesOf path entries

def filesOf (path : List String) : List (String × Tree) → List (List String × Content)
  | [] => []
  | (name, tree) :: rest => filesBelow (path ++ [name]) tree ++ filesOf path rest

end

/-- An entry replaces the one that has its name. -/
def assign (name : String) (tree : Tree) : List (String × Tree) → List (String × Tree)
  | [] => [(name, tree)]
  | (other, child) :: rest =>
    if other == name then (name, tree) :: rest else (other, child) :: assign name tree rest

/-- The tree with another one under some names. Every name before the last is that of a directory.
-/
def put (child : Tree) : List String → Tree → Tree
  | [], _ => child
  | _ :: _, .file content => .file content
  | name :: rest, .directory entries =>
    .directory (assign name (put child rest ((entries.lookup name).getD (.directory []))) entries)

end Tree

end Relmap
