/-! Identifiers made from the names of tables and columns, which may hold any characters. Only ASCII
letters and digits survive; everything else separates words. -/

namespace Relmap.Identifier

/-- Whether a new word begins between two characters, from the two and what follows them. A capital
begins one after a small letter or a digit, and after a capital if a small letter comes next. -/
def startsWord (before c : Char) (rest : List Char) : Bool :=
  c.isUpper && (before.isLower || before.isDigit || before.isUpper && rest.head?.any Char.isLower)

def continues (before : Char) : List Char → Bool
  | [] => false
  | c :: rest => c.isAlphanum && !startsWord before c rest

/-- Each word is a run of letters and digits, and none is empty. -/
def words : List Char → List (List Char)
  | [] => []
  | c :: rest =>
    if !c.isAlphanum then words rest
    else
      match continues c rest, words rest with
      | true, word :: others => (c :: word) :: others
      | _, others => [c] :: others

/-- A name without a letter or digit is called so. -/
def unnamedField : List Char := "field".toList

/-- An identifier cannot begin with a digit. -/
def snake (name : List Char) : List Char :=
  match ['_'].intercalate ((words name).map fun word => word.map Char.toLower) with
  | [] => unnamedField
  | c :: rest => if c.isDigit then '_' :: c :: rest else c :: rest

/-- Words in small letters with underscores between them, the style of fields and functions. -/
def snakeCase (name : String) : String := String.ofList (snake name.toList)

/-- Runs of letters and digits, with no regard to case. -/
def runs : List Char → List (List Char)
  | [] => []
  | c :: rest =>
    if !c.isAlphanum then runs rest
    else
      match rest.head?.any Char.isAlphanum, runs rest with
      | true, run :: others => (c :: run) :: others
      | _, others => [c] :: others

def capitalize : List Char → List Char
  | [] => []
  | c :: rest => c.toUpper :: rest

/-- Stands for a name without a letter or digit, and goes before one that begins with a digit. -/
def unnamedType : List Char := "Table".toList

def pascal (name : List Char) : List Char :=
  match (runs name).flatMap capitalize with
  | [] => unnamedType
  | c :: rest => if c.isDigit then unnamedType ++ c :: rest else c :: rest

/-- Runs of letters and digits, each with a capital, in one word: the style of types. -/
def typeName (name : String) : String := String.ofList (pascal name.toList)

/-- Words with a meaning of their own, which no identifier may be as it stands. -/
def keywords : List String :=
  ["abstract", "as", "async", "await", "become", "box", "break", "const", "continue", "do", "dyn", "else",
   "enum", "extern", "false", "final", "fn", "for", "gen", "if", "impl", "in", "let", "loop", "macro",
   "match", "mod", "move", "mut", "override", "priv", "pub", "ref", "return", "static", "struct", "trait",
   "true", "try", "type", "typeof", "unsafe", "unsized", "use", "virtual", "where", "while", "yield"]

/-- Words that stay keywords even behind the mark of a raw identifier. -/
def strictKeywords : List String := ["crate", "self", "super", "Self"]

/-- A keyword is written as a raw identifier where that helps, else with an underscore behind it. -/
def escapeKeyword (identifier : String) : String :=
  if strictKeywords.contains identifier then identifier ++ "_"
  else if keywords.contains identifier then "r#" ++ identifier
  else identifier

/-- The first candidate that is free, from the `n`-th on. The search looks at one more than `bound`
of them. -/
def firstFree (taken : String → Bool) (candidate : Nat → String) (n : Nat) : Nat → String
  | 0 => candidate n
  | bound + 1 => if taken (candidate n) then firstFree taken candidate (n + 1) bound else candidate n

end Relmap.Identifier
