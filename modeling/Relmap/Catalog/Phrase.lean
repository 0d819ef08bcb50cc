import Relmap.Catalog.Lexeme

/-! Parts of statements: names, groups between brackets and lists between commas. A statement
reaches up to a semicolon outside of quotes and comments. -/

namespace Relmap.Catalog

/-- Words with a meaning of their own, which cannot be names unless they are quoted. -/
def reservedWords : List String :=
  ["ADD", "ALL", "ALTER", "AND", "AS", "AUTOINCREMENT", "BETWEEN", "CASE", "CHECK", "COLLATE", "COMMIT",
   "CONSTRAINT", "CREATE", "DEFAULT", "DEFERRABLE", "DELETE", "DISTINCT", "DROP", "ELSE", "ESCAPE", "EXCEPT",
   "EXISTS", "FOREIGN", "FROM", "GROUP", "HAVING", "IN", "INDEX", "INSERT", "INTERSECT", "INTO", "IS",
   "ISNULL", "JOIN", "LIMIT", "NOT", "NOTHING", "NOTNULL", "NULL", "ON", "OR", "ORDER", "PRIMARY",
   "REFERENCES", "RETURNING", "SELECT", "SET", "TABLE", "THEN", "TO", "TRANSACTION", "UNION", "UNIQUE",
   "UPDATE", "USING", "VALUES", "WHEN", "WHERE"]

def timeWords : List String := ["CURRENT_DATE", "CURRENT_TIME", "CURRENT_TIMESTAMP"]

/-- Words that can be names, but neither types nor defaults. -/
def joinWords : List String :=
  ["CROSS", "FULL", "INDEXED", "INNER", "LEFT", "NATURAL", "OUTER", "RIGHT"]

namespace Lexeme

/-- The name that a lexeme stands for. A text between single quotes is one too. -/
def name? (lexeme : Lexeme) : Option String :=
  match lexeme.token with
  | .word capitals => if reservedWords.contains capitals then none else some (String.ofList lexeme.raw)
  | .quoted name | .string name => some name
  | _ => none

def isTypeWord (lexeme : Lexeme) : Bool :=
  match lexeme.token with
  | .word capitals => !reservedWords.contains capitals && !joinWords.contains capitals
  | .quoted _ | .string _ => true
  | _ => false

def isLiteral (lexeme : Lexeme) : Bool :=
  match lexeme.token with
  | .number _ | .string _ | .blob _ => true
  | .word capitals => capitals == "NULL" || timeWords.contains capitals
  | _ => false

/-- A word that is no literal is taken for a text. -/
def isDefault (lexeme : Lexeme) : Bool :=
  lexeme.isLiteral || lexeme.isTypeWord || lexeme.token == .word "INDEXED"

def isTime (lexeme : Lexeme) : Bool :=
  match lexeme.token with
  | .word capitals => timeWords.contains capitals
  | _ => false

def isSign (lexeme : Lexeme) : Bool := lexeme.token == .mark '+' || lexeme.token == .mark '-'

end Lexeme

def skip : List String → List Lexeme → Option (List Lexeme)
  | [], rest => some rest
  | word :: words, first :: rest => if first.token == .word word then skip words rest else none
  | _ :: _, [] => none

def closeGroup (opened : Nat) : List Lexeme → Option (List Lexeme × List Lexeme)
  | [] => none
  | first :: rest =>
    match first.token, opened with
    | .mark ')', 0 => some ([], rest)
    | .mark ')', deeper + 1 => (closeGroup deeper rest).map fun (inside, after) => (first :: inside, after)
    | .mark '(', _ => (closeGroup (opened + 1) rest).map fun (inside, after) => (first :: inside, after)
    | _, _ => (closeGroup opened rest).map fun (inside, after) => (first :: inside, after)

def group? : List Lexeme → Option (List Lexeme × List Lexeme)
  | first :: rest => if first.token == .mark '(' then closeGroup 0 rest else none
  | [] => none

/-- The parts between commas; a comma inside brackets separates nothing. -/
def items (opened : Nat) : List Lexeme → List (List Lexeme)
  | [] => [[]]
  | first :: rest =>
    if first.token == .mark ',' && opened == 0 then [] :: items 0 rest
    else
      let inner :=
        if first.token == .mark '(' then opened + 1
        else if first.token == .mark ')' then opened - 1
        else opened
      match items inner rest with
      | [] => [[first]]
      | item :: others => (first :: item) :: others

def single? {α : Type} : List α → Option α
  | [only] => some only
  | _ => none

def names? (inside : List Lexeme) : Option (List String) :=
  (items 0 inside).mapM fun item => (single? item).bind (·.name?)

/-- Names of columns by which rows are told apart, which the time of a statement cannot do. -/
def keyNames? (inside : List Lexeme) : Option (List String) :=
  if inside.any (·.isTime) then none else names? inside

def isOver (rest : List Lexeme) : Bool := rest.head?.all (·.token == .finish)

/-- The statements of a text, each up to its semicolon or the end, which it keeps as its last
lexeme. -/
def splitStatements : List Lexeme → List (List Lexeme)
  | [] => [[]]
  | first :: rest =>
    if first.token == .mark ';' then [⟨.finish, [], first.gap⟩] :: splitStatements rest
    else
      match splitStatements rest with
      | [] => [[first]]
      | statement :: others => (first :: statement) :: others

end Relmap.Catalog
