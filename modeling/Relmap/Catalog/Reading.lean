import Relmap.Catalog.Statement

/-! How statements are read. A column has a name, perhaps a type of any words, and constraints in
any order; everything that is not of a known form is refused as a whole. -/

namespace Relmap.Catalog

def minuses (signs : List Lexeme) : Nat := signs.countP (·.token == .mark '-')

def readConstraint : PartReader Lexeme Constraint := fun first behind =>
  match first.token, behind with
  | .word "PRIMARY", key :: more =>
    if key.token != .word "KEY" then none
    else if more.head?.any (·.token == .word "AUTOINCREMENT") then some (.primaryKey true, 2)
    else some (.primaryKey false, 1)
  | .word "NOT", null :: _ => if null.token == .word "NULL" then some (.notNull, 1) else none
  | .word "NULL", _ => some (.nullable, 0)
  | .word "UNIQUE", _ => some (.unique, 0)
  | .word "DEFAULT", value :: more =>
    if value.isDefault then some (.default (String.ofList value.raw) ⟨0, .ofDefault value⟩, 1)
    else if value.isSign then
      match more with
      | literal :: _ =>
        if literal.isLiteral then
          some (.default (String.ofList (written [value, literal])) ⟨minuses [value], .ofDefault literal⟩, 2)
        else none
      | [] => none
    else none
  | .word "REFERENCES", table :: more => do
    let name ← table.name?
    match group? more with
    | some (inside, _) => return (.references name (← names? inside), 1 + inside.length + 2)
    | none => return (.references name [], 1)
  | _, _ => none

def columnDefinition? : List Lexeme → Option ColumnDefinition
  | [] => none
  | first :: behind => do
    let length := typeLength behind
    let constraints ← scanAll readConstraint (behind.drop length)
    return ⟨← first.name?, .ofText (written (behind.take length)), constraints⟩

def tableKey? (item : List Lexeme) : Option (List String) := do
  match ← group? (← skip ["PRIMARY", "KEY"] item) with
  | (inside, []) => keyNames? inside
  | _ => none

def tableBody? (inside : List Lexeme) : Option (List ColumnDefinition × Option (List String)) :=
  let parts := items 0 inside
  match parts.reverse with
  | last :: before =>
    match tableKey? last with
    | some key =>
      if before.isEmpty then none
      else (before.reverse.mapM columnDefinition?).map (·, some key)
    | none => (parts.mapM columnDefinition?).map (·, none)
  | [] => none

def beginsCondition (rest : List Lexeme) : Bool := rest.head?.any (·.token == .word "IF")

/-- The condition that goes before a name, and what follows it. The name cannot be the word that
begins a condition, not even behind one. -/
def unlessPresent? (rest : List Lexeme) : Option (Bool × List Lexeme) :=
  if !beginsCondition rest then some (false, rest)
  else ((skip ["IF", "NOT", "EXISTS"] rest).filter fun after => !beginsCondition after).map (true, ·)

def tableDefinition? (temporary : Bool) (rest : List Lexeme) : Option TableDefinition := do
  let name ← (← rest.head?).name?
  let (inside, after) ← group? (rest.drop 1)
  let (columns, key) ← tableBody? inside
  if !isOver after then failure
  return ⟨name, temporary, columns, key, rest.take (inside.length + 3)⟩

def createTable? (temporary : Bool) (rest : List Lexeme) : Option Statement := do
  let (unlessPresent, rest) ← unlessPresent? rest
  return .createTable unlessPresent (← tableDefinition? temporary rest)

/-- Whether a name that no column has is taken for a value: a text between double quotes, or a truth
value. -/
def mayBeValue (lexeme : Lexeme) : Bool :=
  lexeme.raw.head? == some '"' || lexeme.token == .word "TRUE" || lexeme.token == .word "FALSE"

def createIndex? (unique : Bool) (rest : List Lexeme) : Option Statement := do
  let (unlessPresent, rest) ← unlessPresent? rest
  let name ← (← rest.head?).name?
  let rest ← skip ["ON"] (rest.drop 1)
  let table ← (← rest.head?).name?
  let (inside, after) ← group? (rest.drop 1)
  if !isOver after then failure
  let parts ← keyNames? inside
  let columns := (parts.zip (items 0 inside)).filter fun (_, item) => !item.any mayBeValue
  return .createIndex unlessPresent table ⟨name, unique, parts, columns.map (·.1)⟩

def addColumn? (table : String) (rest : List Lexeme) : Option Statement := do
  let source := (skip ["COLUMN"] rest).getD rest
  return .addColumn table (← columnDefinition? (source.filter (·.token != .finish))) source

def rename? (table : String) (rest : List Lexeme) : Option Statement := do
  let name ← (← rest.head?).name?
  if !isOver (rest.drop 1) then failure
  return .rename table name

def alterTable? (rest : List Lexeme) : Option Statement := do
  let table ← (← rest.head?).name?
  let rest := rest.drop 1
  (skip ["ADD"] rest).bind (addColumn? table) <|> (skip ["RENAME", "TO"] rest).bind (rename? table)

/-- How many minus signs there can be. -/
def greatestDepth : Nat := 999

def constant? (item : List Lexeme) : Option Constant := do
  let signs := item.takeWhile (·.isSign)
  if greatestDepth < minuses signs then failure
  return ⟨minuses signs, ← (← single? (item.drop signs.length)) |> Literal.of?⟩

def row? (item : List Lexeme) : Option (List Constant) := do
  match ← group? item with
  | (inside, []) => (items 0 inside).mapM constant?
  | _ => none

def insert? (rest : List Lexeme) : Option Statement := do
  let table ← (← rest.head?).name?
  let rows ← skip ["VALUES"] (rest.drop 1)
  return .insert table (← (items 0 (rows.filter (·.token != .finish))).mapM row?)

def statement? (text : List Lexeme) : Option Statement :=
  (skip ["CREATE", "TABLE"] text).bind (createTable? false)
    <|> (skip ["CREATE", "TEMP", "TABLE"] text).bind (createTable? true)
    <|> (skip ["CREATE", "TEMPORARY", "TABLE"] text).bind (createTable? true)
    <|> (skip ["CREATE", "INDEX"] text).bind (createIndex? false)
    <|> (skip ["CREATE", "UNIQUE", "INDEX"] text).bind (createIndex? true)
    <|> (skip ["ALTER", "TABLE"] text).bind alterTable?
    <|> (skip ["INSERT", "INTO"] text).bind insert?

end Relmap.Catalog
