import Relmap.Catalog.Row

/-! Columns that refer to other tables. What is referred to must be a key by itself, and every value
that is not null must be that of a row there. -/

namespace Relmap.Catalog

structure Reference where
  /-- Of the column that refers. -/
  position : Nat
  table : String
  /-- The primary key if none is named. -/
  column : Option String
  deriving DecidableEq

namespace StoredTable

def references (table : StoredTable) : List Reference :=
  table.columns.zipIdx.flatMap fun (column, position) =>
    column.references.map fun (referred, key) => ⟨position, referred, key⟩

/-- The position of the column to which a reference leads: the one that numbers the rows, or one
that is a key by itself. -/
def referredPosition? (table : StoredTable) (column : Option String) : Option Nat :=
  let isMeant := fun name : String => column.all (Text.sameLetters name)
  match table.rowIdentity? with
  | some identity =>
    if isMeant identity.name then table.position? identity.name else amongKeys isMeant
  | none => amongKeys isMeant
where
  /-- The only column of the first key that is meant. -/
  amongKeys (isMeant : String → Bool) : Option Nat :=
    let keys := if column.isNone then [table.key] else table.uniqueKeys
    keys.findSome? fun names =>
      match names with
      | [name] => if isMeant name then table.position? name else none
      | _ => none

def affinityAt (table : StoredTable) (position : Nat) : Affinity :=
  ((table.columns[position]?).map (·.type.affinity)).getD .unknown

/-- A value as the column to which it refers would keep it; nothing if the column numbers rows and
the value is no number of a row. -/
def asReferred? (table : StoredTable) (position : Nat) (value : Cell) : Option Cell :=
  if table.identityPosition? == some position then (identity? value).map .integer
  else some (keep (table.affinityAt position) value)

def isReferred (table : StoredTable) (position : Nat) (value : Cell) (row : List Cell) : Bool :=
  (table.asReferred? position value).any fun kept => sameKey [row.getD position .null] [kept]

end StoredTable

/-- Whether a row refers to itself. Unless the column numbers rows, the value has to be the same as
it stands. -/
def refersToItself (table : StoredTable) (position : Nat) (reference : Reference)
    (row : List Cell) : Bool :=
  let value := row.getD reference.position .null
  if table.identityPosition? == some position then table.isReferred position value row
  else sameKey [row.getD position .null] [value]

/-- Whether the values of two columns are the same where they are compared. Texts that are numbers
count as such if one of the columns is for numbers. -/
def sameInColumns (first second : Affinity) (one other : Cell) : Bool :=
  let isNumeric := fun affinity : Affinity => affinity matches .integer | .real | .numeric
  if isNumeric first || isNumeric second then sameKey [numeric one] [numeric other]
  else sameKey [one] [other]

/-- The references of a row that is about to be added which no row meets. The tables are those of
the database. -/
def unmet (tables : List StoredTable) (table : StoredTable) (row : List Cell) :
    Except Refusal Nat := do
  let met ← table.references.mapM fun reference => do
    let some referred := tables.find? fun other => Text.sameLetters other.name reference.table
      | throw (.noSuchTable reference.table)
    let some position := referred.referredPosition? reference.column
      | throw (.noSuchKey table.name referred.name)
    let value := row.getD reference.position .null
    return value.isNull || referred.rows.any (referred.isReferred position value)
      || (Text.sameLetters referred.name table.name && refersToItself table position reference row)
  return met.countP (!·)

/-- The references that lead to a table, each with the table that refers and the position to which
it leads. -/
def referencesTo (tables : List StoredTable) (table : StoredTable) :
    Except Refusal (List (StoredTable × Reference × Nat)) := do
  let found ← tables.mapM fun other => do
    let references := other.references.filter fun reference =>
      Text.sameLetters reference.table table.name
    references.mapM fun reference => do
      let some position := table.referredPosition? reference.column
        | throw (.noSuchKey other.name table.name)
      return (other, reference, position)
  return found.flatten

/-- What is still to be met when a row is about to be added to a table to which references lead.
Nothing is looked for as long as nothing is to be met. -/
def meet (table : StoredTable) (row : List Cell) (pending : Int)
    (referring : StoredTable × Reference × Nat) : Int :=
  let (other, reference, position) := referring
  if pending == 0 then 0
  else
    pending - other.rows.countP fun child =>
      sameInColumns (table.affinityAt position) (other.affinityAt reference.position)
        (row.getD position .null) (child.getD reference.position .null)

end Relmap.Catalog
