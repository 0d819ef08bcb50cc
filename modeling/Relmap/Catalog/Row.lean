import Relmap.Catalog.StoredTable

/-! Rows that are added to a table. Every value is kept as its column keeps values; a row is refused
if a value is null against the column's will, or if it has the values of another row under a key. -/

namespace Relmap.Catalog

namespace StoredTable

/-- The values of a row under columns. A name that no column has stands for a value that every row
has. -/
def valuesUnder (table : StoredTable) (row : List Cell) (names : List String) : List Cell :=
  names.map fun name => ((table.position? name).map fun position => row.getD position .null).getD (.text name)

def collides (table : StoredTable) (row : List Cell) (names : List String) : Bool :=
  let values := table.valuesUnder row names
  table.rows.any fun other => sameKey (table.valuesUnder other names) values

def isUniqueUnder (table : StoredTable) (names : List String) : Bool :=
  let values := table.rows.map (table.valuesUnder · names)
  values.zipIdx.all fun (first, index) => !(values.drop (index + 1)).any (sameKey first)

def identities (table : StoredTable) : List Int :=
  match table.identityPosition? with
  | some position => table.rows.map fun row => toInteger (row.getD position .null)
  | none => []

/-- The number for a row that has none: one more than the greatest. Where numbers are not to be used
again, the last one that was given is told, and there is none behind the greatest of all; else any
number will do. -/
def nextIdentity? (table : StoredTable) (last : Option Int) : Option Int :=
  let greatest := table.identities.foldl (fun greatest number => some (greatest.elim number (max number))) none
  let next := greatest.elim 1 (· + 1)
  match last with
  | some number =>
    if greatestInteger ≤ max number (next - 1) then none else some (max next (number + 1))
  | none =>
    if next ≤ greatestInteger then some next
    else ((List.range (table.rows.length + 1)).map fun n : Nat => greatestInteger / 2 - n).find? fun number =>
      !table.identities.contains number

def numbered (table : StoredTable) (last : Option Int) (row : List Cell) :
    Except Refusal (List Cell) := do
  let some position := table.identityPosition? | return row
  let value := row.getD position .null
  if value.isNull then
    match table.nextIdentity? last with
    | some number => return row.set position (.integer (Int64.ofInt number))
    | none => throw .noNumberLeft
  else
    match identity? value with
    | some number => return row.set position (.integer number)
    | none => throw .notAnInteger

def insertRow (table : StoredTable) (last : Option Int) (values : List Cell) :
    Except Refusal StoredTable := do
  let kept := (table.columns.zip (← table.numbered last values)).map fun (column, value) =>
    keep column.type.affinity value
  match (table.columns.zip kept).find? fun (column, value) => column.notNull && value.isNull with
  | some (column, _) => throw (.nullValue column.name)
  | none => pure ()
  refuseIf (table.uniqueKeys.any (table.collides kept)) (.repeatedValue table.name)
  return { table with rows := table.rows ++ [kept] }

def lastAfter (table : StoredTable) (last : Int) : Int :=
  (table.identities.getLast?).elim last (max last)

end StoredTable

def evaluate (row : List Constant) : Except Refusal (List Cell) :=
  row.mapM fun constant =>
    match constant.value? with
    | some value => .ok value
    | none => .error .numberTooLong

end Relmap.Catalog
