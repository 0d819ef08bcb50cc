import Relmap.Catalog.Digits
import Relmap.Text.Lexis
import Relmap.Text.Mention

/-! The words and marks of a statement. White space and comments belong to the word or mark behind
them, so that every stretch of a statement can be given back as it was written. A part of the database that stands in for
SQLite; theorems about the texts of statements read them with a reader of their own. -/

namespace Relmap.Catalog

inductive Token where
  /-- A word without quotes, in capitals. -/
  | word (capitals : String)
  /-- A name between double quotes, back quotes or brackets. -/
  | quoted (name : String)
  | string (content : String)
  /-- Without the marks that may stand between digits. -/
  | number (digits : String)
  | blob (digits : String)
  | mark (c : Char)
  /-- What cannot be read, such as a text whose quote is not closed. -/
  | stray
  /-- The end of the statement. -/
  | finish
  deriving DecidableEq, Inhabited

structure Lexeme where
  token : Token
  /-- As written. -/
  raw : List Char
  /-- The white space and comments before it. -/
  gap : List Char
  deriving DecidableEq, Inhabited

def written : List Lexeme → List Char
  | [] => []
  | first :: rest => first.raw ++ rest.flatMap fun lexeme => lexeme.gap ++ lexeme.raw

/-- A vertical tab is white space only behind other white space. -/
def beginsSpace (c : Char) : Bool := Text.isSpace c && c != '\x0b'

/-- Nothing is to be seen of this character between words; inside a word it is a part like any
other. -/
def orderMark : Char := '\uFEFF'

def bracketContent (text : List Char) : Option (List Char × Nat) :=
  let length := runLength (· != ']') text
  if length < text.length then some (text.take length, length + 1) else none

abbrev Piece := Option Token × List Char

/-- A number must not run into a word. -/
def readNumber (text : List Char) : Option (Piece × Nat) :=
  let isHex := isHexadecimal text
  let length := if isHex then 2 + digitRun isHexDigit (text.drop 2) else numberLength text
  let raw := text.take length
  let isDigit := if isHex then isHexDigit else Char.isDigit
  if (text.drop length).head?.any Text.isWordPart || !marksBetween isDigit raw then none
  else some ((some (.number (String.ofList (raw.filter (· != '_')))), raw), length - 1)

def readQuoted (c : Char) (behind : List Char) (token : String → Token) : Option (Piece × Nat) :=
  (Text.quotedContent c behind).map fun (content, length) =>
    ((some (token (String.ofList content)), c :: behind.take length), length)

def readPiece : PartReader Char Piece := fun c behind =>
  let blank := fun length : Nat => some (((none, c :: behind.take length) : Piece), length)
  let alone := some (((some (.mark c), [c]) : Piece), 0)
  if beginsSpace c then blank (runLength Text.isSpace behind)
  else if c == orderMark then blank 0
  else if c == '-' && behind.head? == some '-' then blank (runLength (· != '\n') behind)
  else if c == '/' && behind.head? == some '*' && 2 ≤ behind.length then
    blank (1 + Text.blockLength (behind.drop 1))
  else if c == '\'' then readQuoted c behind .string
  else if c == '"' || c == '\x60' then readQuoted c behind .quoted
  else if c == '[' then
    (bracketContent behind).map fun (content, length) =>
      ((some (.quoted (String.ofList content)), c :: behind.take length), length)
  else if c.isDigit || c == '.' && behind.head?.any Char.isDigit then readNumber (c :: behind)
  else if (c == 'x' || c == 'X') && behind.head? == some '\'' then
    let digits := runLength isHexDigit (behind.drop 1)
    if digits % 2 == 0 && (behind.drop (1 + digits)).head? == some '\'' then
      let raw := c :: behind.take (digits + 2)
      some ((some (.blob (String.ofList raw)), raw), digits + 2)
    else none
  else if Text.isWordStart c then
    let length := runLength Text.isWordPart behind
    let raw := c :: behind.take length
    some ((some (.word (String.ofList (Text.upper raw))), raw), length)
  else if "(),;.+-*/%=<>!|&~".toList.contains c then alone
  else none

/-- Blanks move to the lexeme behind them, the last ones to the end of the statement. -/
def attach (gap : List Char) : List Piece → List Lexeme
  | [] => [⟨.finish, [], gap⟩]
  | (none, raw) :: rest => attach (gap ++ raw) rest
  | (some token, raw) :: rest => ⟨token, raw, gap⟩ :: attach [] rest

/-- All lexemes of a text. It ends at a character with the code zero, and nothing is read from a
character on that has no place in a statement. -/
def lexemes (text : String) : List Lexeme :=
  let (pieces, rest) := scan readPiece (text.toList.takeWhile (· != '\x00'))
  attach [] (pieces ++ if rest.isEmpty then [] else [(some .stray, rest)])

end Relmap.Catalog
