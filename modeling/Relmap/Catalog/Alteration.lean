import Relmap.Catalog.StoredTable

/-! How the text of a table changes with the table. The changed text is read again, so that a table
always is what its text says; where a comment of an added column covers what follows it, there is
nothing that could be read. -/

namespace Relmap.Catalog

/-- White space and semicolons at the end of a text do not count. -/
def withoutEnd (text : List Char) : List Char :=
  (text.reverse.dropWhile fun c => c == ';' || Text.isSpace c).reverse

def reread (temporary : Bool) (text : List Char) : Except Refusal TableDefinition :=
  match tableDefinition? temporary (lexemes (String.ofList text)) with
  | some definition => .ok definition
  | none => .error .malformed

namespace TableDefinition

/-- How many lexemes there are before the end of the columns: a bracket, or a comma with a key
behind it. -/
def columnsEnd (definition : TableDefinition) : Nat :=
  let last := definition.source.length - 1
  match definition.key with
  | none => last
  | some _ =>
    let inside := (definition.source.drop 2).dropLast
    last - (((items 0 inside).getLast?.map (·.length)).getD 0 + 1)

def withColumn (definition : TableDefinition) (column : List Lexeme) : Except Refusal TableDefinition :=
  let before := definition.source.take definition.columnsEnd
  let behind := definition.source.drop definition.columnsEnd
  let gap := (behind.head?.map (·.gap)).getD []
  reread definition.temporary
    (written before ++ gap ++ [',', ' '] ++ withoutEnd (written column) ++ written behind)

end TableDefinition

def quotedLexeme (name : String) (gap : List Char) : Lexeme :=
  ⟨.quoted name, '"' :: name.toList.flatMap (fun c => if c == '"' then ['"', '"'] else [c]) ++ ['"'], gap⟩

def renameReferences (oldName newName : String) : List Lexeme → List Lexeme
  | [] => []
  | first :: rest =>
    if first.token != .word "REFERENCES" then first :: renameReferences oldName newName rest
    else
      match rest with
      | [] => [first]
      | table :: others =>
        if table.name?.any (Text.sameLetters oldName) then
          first :: quotedLexeme newName table.gap :: renameReferences oldName newName others
        else first :: table :: renameReferences oldName newName others

namespace StoredTable

/-- A column that is added is no key, and the rows that are there get its default. So the default
must be the same at all times; it must not be null where null is refused, and only null refers to no
other row. -/
def checkAdded (table : StoredTable) (column : ColumnDefinition) : Except Refusal Unit := do
  refuseIf (table.column? column.name).isSome (.duplicateColumn column.name)
  refuseIf (greatestWidth ≤ table.columns.length) (.tooManyColumns table.name)
  refuseIf column.isKey .keyAdded
  refuseIf column.isUnique .uniqueAdded
  match column.overReferenced? with
  | some name => throw (.severalReferences name)
  | none => pure ()
  let hasRows := !table.rows.isEmpty
  let hasDefault := column.default?.any fun (_, value) => !value.isNull
  refuseIf (hasRows && column.notNull && !hasDefault) .nullAdded
  refuseIf (hasRows && column.default?.any fun (_, value) => value.isTime) .timeAdded
  refuseIf (hasRows && hasDefault && !column.references.isEmpty) .referenceAdded

def addColumn (table : StoredTable) (column : ColumnDefinition) (source : List Lexeme) :
    Except Refusal StoredTable := do
  table.checkAdded column
  let value := (column.default?.map fun (_, value) => value.default column.type.affinity).getD .null
  return { table with
    definition := ← table.definition.withColumn source
    rows := table.rows.map (· ++ [value]) }

def renamed (table : StoredTable) (oldName newName : String) : Except Refusal StoredTable := do
  let source := renameReferences oldName newName table.definition.source
  let isMeant := Text.sameLetters table.name oldName
  let source := if isMeant then quotedLexeme newName [] :: source.drop 1 else source
  return { table with definition := ← reread table.temporary (written source) }

end StoredTable

end Relmap.Catalog
