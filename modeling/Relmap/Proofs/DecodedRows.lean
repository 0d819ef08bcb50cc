import Relmap.Proofs.StoredFields

/-! Rows as the columns of a table give them. A column may convert a cell, but it never loses one: what could be read
from the stored cell can be read from the converted one, and a second conversion changes nothing. -/

namespace Relmap

namespace Affinity

theorem decoded_null (affinity : Affinity) : affinity.decoded .null = .null := by
  cases affinity <;> rfl

private theorem decoded_eq_null {affinity : Affinity} {cell : Cell} : affinity.decoded cell = .null ↔ cell = .null := by
  constructor
  · intro null
    by_cases changed : cell.kind ∈ affinity.converted
    · exact absurd null (FieldType.ne_null_of_kind (decoded_kind changed))
    · rwa [decoded_kept changed] at null
  · rintro rfl
    exact affinity.decoded_null

/-- A conversion gives a cell of the class that the column leaves as it is. -/
theorem decoded_decoded (affinity : Affinity) (cell : Cell) :
    affinity.decoded (affinity.decoded cell) = affinity.decoded cell := by
  by_cases changed : cell.kind ∈ affinity.converted
  · apply decoded_kept
    rw [decoded_kind changed]
    exact affinity.expected_kept
  · rw [decoded_kept changed, decoded_kept changed]

/-- What the type of a column reads from a stored cell it reads from the converted one. -/
theorem read_decoded {affinity : Affinity} {cell : Cell} {x : (FieldType.ofAffinity affinity).Carrier}
    (reads : (FieldType.ofAffinity affinity).read cell = some x) :
    (FieldType.ofAffinity affinity).read (affinity.decoded cell) = some x := by
  by_cases changed : cell.kind ∈ affinity.converted
  · cases affinity with
    | integer | unknown => contradiction
    | real =>
      cases cell with
      | integer number => exact reads
      | _ => simp [converted, Cell.kind] at changed
    | text | numeric =>
      cases cell with
      | integer number | real number => exact reads
      | _ => simp [converted, Cell.kind] at changed
    | blob =>
      cases cell with
      | text content => contradiction
      | _ => simp [converted, Cell.kind] at changed
  · rwa [decoded_kept changed]

end Affinity

namespace StoredRow

variable (row : StoredRow) (index : Nat)

/-- The first reading that succeeds gives the cell in its own class. -/
theorem stored?_cell : (row.stored? index).getD .null = (row.cell? index).getD .null := by
  cases here : row[index]? with
  | none => simp [stored?, cell?, long?, double?, string?, bytes?, here]
  | some cell => cases cell <;> simp [stored?, cell?, long?, double?, string?, bytes?, here]

theorem decodeCell_cell (affinity : Affinity) :
    row.decodeCell index affinity = ((row.cell? index).map affinity.decoded).getD .null := by
  cases here : row.cell? index with
  | none =>
    have missing : row[index]? = none := here
    cases affinity <;> simp [decodeCell, convert, stored?, long?, double?, string?, bytes?, missing]
  | some cell => exact decodeCell_decoded here affinity

/-- What a column may give for the cell at a place in the row, if there is one. -/
structure Given (affinity : Affinity) (given : Cell) : Prop where
  converted : ∀ cell, row.cell? index = some cell → given = affinity.decoded cell
  null : given = .null ↔ row.cell? index = none ∨ row.cell? index = some .null
  untyped : affinity = .unknown → given = (row.cell? index).getD .null
  unconverted : row.convert index affinity = none → given = (row.cell? index).getD .null
  readable : ∀ cell x, row.cell? index = some cell → (FieldType.ofAffinity affinity).read cell = some x →
    (FieldType.ofAffinity affinity).read given = some x

private theorem decodeCell_given (affinity : Affinity) : row.Given index affinity (row.decodeCell index affinity) := by
  have unconverted (refused : row.convert index affinity = none) :
      row.decodeCell index affinity = (row.cell? index).getD .null := by
    rw [decodeCell, refused]
    exact row.stored?_cell index
  constructor
  case converted =>
    intro cell here
    exact decodeCell_decoded here affinity
  case null =>
    rw [decodeCell_cell]
    cases row.cell? index with
    | none => simp
    | some cell => simp [Affinity.decoded_eq_null]
  case untyped =>
    rintro rfl
    exact unconverted rfl
  case unconverted => exact unconverted
  case readable =>
    intro cell x here reads
    rw [decodeCell_cell, here]
    exact Affinity.read_decoded reads

theorem decode_entry {table : Table} {index : Nat} {column : Column} (here : table.columns[index]? = some column) :
    (row.decode table).entries[index]? = some (column.name, row.decodeCell index column.affinity) := by
  simp [decode, here]

/-- Rows of which the columns give the same cells are decoded alike. -/
theorem decode_congr {first second : StoredRow} {table : Table}
    (same : ∀ index column, table.columns[index]? = some column →
      first.decodeCell index column.affinity = second.decodeCell index column.affinity) :
    first.decode table = second.decode table := by
  refine congrArg Row.mk (List.map_congr_left fun (column, index) member => ?_)
  exact congrArg (Prod.mk column.name) (same index column (List.mem_zipIdx_iff_getElem?.mp member))

/-- Cells past the columns of a table do not matter. -/
theorem decode_take (table : Table) : StoredRow.decode (row.take table.columns.length) table = row.decode table := by
  apply decode_congr
  intro index column here
  have inside : index < table.columns.length := (List.getElem?_eq_some_iff.mp here).1
  have cells : StoredRow.cell? (row.take table.columns.length) index = row.cell? index :=
    List.getElem?_take_of_lt inside
  rw [decodeCell_cell, decodeCell_cell, cells]

private theorem decode_decode (table : Table) :
    StoredRow.decode ((row.decode table).entries.map Prod.snd) table = row.decode table := by
  apply decode_congr
  intro index column here
  have given : StoredRow.cell? ((row.decode table).entries.map Prod.snd) index =
      some (row.decodeCell index column.affinity) := by
    rw [cell?, List.getElem?_map, row.decode_entry here]
    rfl
  rw [decodeCell_cell, given, decodeCell_cell]
  cases row.cell? index with
  | none => exact column.affinity.decoded_null
  | some cell => exact column.affinity.decoded_decoded cell

/-- Decoding loses nothing of a stored row. There is one entry for each column, in their order and under their names: the
cell as the column converts it, null only where the stored cell is null or missing, and the stored cell itself where the
column has no type or the cell does not convert. Whatever the type of the column could read from the stored cell it reads
from the entry. Cells past the columns are left out, and decoding what was decoded changes nothing. -/
theorem decode_faithful (table : Table) :
    (row.decode table).names = table.columnNames ∧
    (∀ index column, table.columns[index]? = some column → ∃ given,
      (row.decode table).entries[index]? = some (column.name, given) ∧ row.Given index column.affinity given) ∧
    StoredRow.decode (row.take table.columns.length) table = row.decode table ∧
    StoredRow.decode ((row.decode table).entries.map Prod.snd) table = row.decode table :=
  ⟨row.decode_names table,
    fun index column here => ⟨_, row.decode_entry here, row.decodeCell_given index column.affinity⟩,
    row.decode_take table, row.decode_decode table⟩

def measured : Table where
  name := "t"
  typeId := "T"
  columns := [⟨"ratio", .real, true, none, 0, false⟩, ⟨"data", .blob, true, none, 0, false⟩,
    ⟨"note", .unknown, true, none, 0, false⟩]

/-- The row is one cell short, the integer becomes a float and the text its bytes. -/
theorem decode_faithful_short :
    measured.columns[0]? = some ⟨"ratio", .real, true, none, 0, false⟩ ∧
    FieldType.double.read (.integer 7) = some (.ofInt 7) ∧
    StoredRow.decode [.integer 7, .text "ab"] measured =
      ⟨[("ratio", .real (.ofInt 7)), ("data", .blob [97, 98]), ("note", .null)]⟩ ∧
    FieldType.double.read (.real (.ofInt 7)) = some (.ofInt 7) := by
  obtain ⟨-, each, -⟩ := decode_faithful [.integer 7, .text "ab"] measured
  obtain ⟨given, entry, own⟩ := each 0 _ rfl
  have reads := own.readable (.integer 7) _ rfl rfl
  cases entry
  exact ⟨rfl, rfl, by decide +kernel, reads⟩

end StoredRow

end Relmap
