import Relmap.Text.Blank
import Relmap.Text.Line
import Relmap.Text.Mention

/-! The statements of a schema file that declare something. Comments go first, then the text is cut
at its semicolons, and a piece is kept if it begins like a declaration. Quotes have no meaning here:
a comment mark or a semicolon counts wherever it stands. -/

namespace Relmap.Ddl

def afterBlock : List Char → Option (List Char)
  | [] => none
  | '*' :: '/' :: rest => some rest
  | _ :: rest => afterBlock rest

theorem afterBlock_length {text rest : List Char} (found : afterBlock text = some rest) :
    rest.length < text.length := by
  fun_induction afterBlock text with
  | case1 => contradiction
  | case2 after =>
    cases found
    simp only [List.length_cons]
    omega
  | case3 c others _ ih =>
    have shorter := ih found
    simp only [List.length_cons]
    omega

/-- A block comment leaves a space in its place. One that is never closed is no comment, and neither
is anything after it. -/
def withoutBlocks : List Char → List Char
  | [] => []
  | '/' :: '*' :: rest =>
    match found : afterBlock rest with
    | some after =>
      have := afterBlock_length found
      ' ' :: withoutBlocks after
    | none => '/' :: '*' :: rest
  | c :: rest => c :: withoutBlocks rest
termination_by text => text.length

def beforeDashes : List Char → List Char
  | [] => []
  | '-' :: '-' :: _ => []
  | c :: rest => c :: beforeDashes rest

/-- Block comments are found first, so one that begins behind two dashes still hides what follows
it. -/
def withoutComments (text : List Char) : List Char :=
  ['\n'].intercalate ((Text.lines (withoutBlocks text)).map beforeDashes)

def stripComments (text : String) : String := String.ofList (withoutComments text.toList)

def heads : List String := ["create table", "create index", "alter table"]

/-- So many characters of a statement are looked at. -/
def headLength : Nat := 128

/-- The words may stand anywhere in the head, in any case, with single spaces in them. -/
def declares (statement : List Char) : Bool :=
  heads.any fun head => Text.mentions (Text.lower (statement.take headLength)) head.toList

/-- The kept pieces without the blanks around them. -/
def declarations (text : List Char) : List (List Char) :=
  ((Text.split ';' (withoutComments text)).map Text.trim).filter fun statement =>
    !statement.isEmpty && declares statement

/-- Each statement ends with its semicolon again, whether or not the last one had one. -/
def extract (text : String) : List String :=
  (declarations text.toList).map fun statement => String.ofList (statement ++ [';'])

end Relmap.Ddl
