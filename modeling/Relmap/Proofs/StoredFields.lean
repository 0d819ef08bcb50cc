import Relmap.Driver.Echo
import Relmap.Proofs.GeneratedModels
import Relmap.Proofs.RequestReading

/-! Fields that come back from storage. A value goes in as the argument of a slot, stays as a cell, is decoded by
position as the affinity of its column asks, and is looked up by name and read as the type of its field. -/

namespace Relmap

namespace Affinity

def decoded : Affinity → Cell → Cell
  | .real, .integer number => .real (.ofInt number.toInt)
  | .text, .integer number | .numeric, .integer number => .text (toString number.toInt)
  | .text, .real number | .numeric, .real number => .text number.plain
  | .blob, .text content => .blob content.toUTF8.toList
  | _, cell => cell

/-- The storage classes whose cells a column does not give as they are. -/
def converted : Affinity → List String
  | .integer | .unknown => []
  | .real => ["INTEGER"]
  | .text | .numeric => ["INTEGER", "REAL"]
  | .blob => ["TEXT"]

theorem decoded_kept {affinity : Affinity} {cell : Cell} (kept : cell.kind ∉ affinity.converted) :
    affinity.decoded cell = cell := by
  cases affinity <;> cases cell <;> first | rfl | simp [converted, Cell.kind] at kept

/-- A converted cell is of the class that the affinity stands for. -/
theorem decoded_kind {affinity : Affinity} {cell : Cell} (changed : cell.kind ∈ affinity.converted) :
    (affinity.decoded cell).kind = (FieldType.ofAffinity affinity).expected := by
  cases affinity <;> cases cell <;> first | rfl | simp [converted, Cell.kind] at changed

/-- The class that an affinity stands for is never converted. -/
theorem expected_kept (affinity : Affinity) : (FieldType.ofAffinity affinity).expected ∉ affinity.converted := by
  cases affinity <;> decide

end Affinity

theorem StoredRow.decodeCell_decoded {row : StoredRow} {index : Nat} {cell : Cell} (here : row[index]? = some cell)
    (affinity : Affinity) : row.decodeCell index affinity = affinity.decoded cell := by
  cases affinity <;> cases cell <;>
    simp [decodeCell, convert, stored?, long?, double?, string?, bytes?, here, Affinity.decoded]

/-- Storage keeps every value but a float that is no number. -/
def Value.storable : Value → Bool
  | .float number => !number.isNaN
  | _ => true

private theorem Value.held_stored (value : Value) : value.held.stored = value.stored := by
  cases value with
  | bool flag => cases flag <;> rfl
  | _ => rfl

namespace FieldType

/-- No type asks for null. -/
theorem ne_null_of_kind {type : FieldType} {cell : Cell} (kind : cell.kind = type.expected) : cell ≠ .null := by
  rintro rfl
  cases type <;> simp [Cell.kind, expected] at kind

private theorem read_stored {type : FieldType} {x : type.Carrier} (storable : (type.argument x).storable) :
    type.read (type.argument x).stored = some x := by
  cases type with
  | boolean => cases x <;> rfl
  | int => simp [argument, toValue, Value.stored, read]
  | double =>
    have number : x.isNaN = false := by simpa [argument, toValue, Value.storable] using storable
    simp [argument, toValue, Value.stored, read, number]
  | any =>
    cases x with
    | real number =>
      have number : number.isNaN = false := by simpa [argument, toValue, Cell.toValue, Value.storable] using storable
      simp [argument, toValue, Cell.toValue, Value.stored, read, number]
    | _ => rfl
  | _ => rfl

theorem stored_kind {type : FieldType} (known : type ≠ .any) {x : type.Carrier}
    (storable : (type.argument x).storable) : (type.argument x).stored.kind = type.expected := by
  cases type with
  | double =>
    have number : x.isNaN = false := by simpa [argument, toValue, Value.storable] using storable
    simp [argument, toValue, Value.stored, Cell.kind, expected, number]
  | any => contradiction
  | _ => rfl

/-- A cell that a column converted is of no use to a type that asks for the class it had. -/
theorem read_converted {type : FieldType} (known : type ≠ .any) {affinity : Affinity} {cell : Cell}
    (kind : cell.kind = type.expected) (changed : type.expected ∈ affinity.converted) :
    type.read (affinity.decoded cell) = none := by
  rw [← kind] at changed
  cases affinity <;> cases cell <;> simp [Affinity.converted, Cell.kind] at changed <;> cases type <;>
    first | rfl | contradiction | simp [Cell.kind, expected] at kind

end FieldType

/-- The row that a database keeps of arguments bound to its columns. -/
def StoredRow.kept (arguments : List Value) : StoredRow :=
  ((bindings arguments).slots arguments.length).map Value.stored

namespace StoredRow

private theorem kept_cell {arguments : List Value} {index : Nat} {value : Value}
    (bound : arguments[index]? = some value) :
    (kept arguments)[index]? = some value.stored := by
  rw [kept, Bindings.slots_bindings, List.map_map, List.getElem?_map, bound]
  exact congrArg some value.held_stored

theorem decode_names (row : StoredRow) (table : Table) : (row.decode table).names = table.columnNames := by
  rw [Row.names, decode, List.map_map, Table.columnNames]
  nth_rewrite 2 [← List.zipIdx_map_fst 0 table.columns]
  rw [List.map_map]
  rfl

/-- Names that all differ find the cells of their own columns. -/
theorem decode_get? {table : Table} (distinct : table.columnNames.Nodup) {index : Nat} {column : Column}
    (here : table.columns[index]? = some column) (row : StoredRow) :
    (row.decode table).get? column.name = some (row.decodeCell index column.affinity) := by
  have names : (row.decode table).names.Nodup := by
    rw [decode_names]
    exact distinct
  refine (lookup_distinct names).mpr (List.mem_map.mpr ⟨(column, index), ?_, rfl⟩)
  exact List.mem_zipIdx_iff_getElem?.mpr here

end StoredRow

namespace Field

private theorem read_present {field : Field} {row : Row} {cell : Cell} (found : row.get? field.column = some cell)
    (present : cell ≠ .null) {value : field.type.Carrier} (reads : field.type.read cell = some value) :
    field.read row = .ok ⟨field.type, some value⟩ := by
  have optional : row.optional field.column field.type = .ok (some value) := by
    simp only [Row.optional, found, reads]
  rw [read, Row.required, optional]
  cases field.required <;> rfl

private theorem read_mismatch {field : Field} {row : Row} {cell : Cell} (found : row.get? field.column = some cell)
    (present : cell ≠ .null) (refused : field.type.read cell = none) :
    field.read row = .error (.typeMismatch field.column field.type.expected cell.kind) := by
  have optional : row.optional field.column field.type =
      .error (.typeMismatch field.column field.type.expected cell.kind) := by
    simp only [Row.optional, found, refused]
  rw [read, Row.required, optional]
  cases field.required <;> rfl

private theorem read_missing {field : Field} {row : Row} (found : row.get? field.column = some .null)
    (missing : field.required = false) : field.read row = .ok ⟨field.type, none⟩ := by
  rw [read, missing, Row.optional, found]
  rfl

end Field

/-- What is stored for a reading. -/
def Reading.argument (reading : Reading) : Value := reading.value.elim .null reading.type.argument

/-- What an entity can hold in a field: a value of its type, or nothing where that is allowed, and no float that is
no number. -/
structure Field.Holds (field : Field) (reading : Reading) : Prop where
  type : reading.type = field.type
  present : field.required = true → reading.value.isSome
  storable : reading.argument.storable

namespace Code

def FieldModel.field (model : FieldModel) : Field := ⟨model.column.name, model.type, !model.column.nullable⟩

namespace FieldModel

section

variable {table : Schema.Table} (distinct : (table.columns.map (·.name)).Nodup) {model : FieldModel} {index : Nat}
  (here : table.columns[index]? = some model.column) {arguments : List Value}

include distinct here

theorem found_kept {value : Value} (bound : arguments[index]? = some value) :
    ((StoredRow.kept arguments).decode table.toTable).get? model.field.column =
      some (model.column.affinity.decoded value.stored) := by
  have names : table.toTable.columnNames.Nodup := by
    rw [Table.columnNames, Schema.Table.toTable, List.map_map]
    exact distinct
  have column : table.toTable.columns[index]? = some model.column.toColumn := by
    rw [Schema.Table.toTable, List.getElem?_map, here]
    rfl
  rw [← StoredRow.decodeCell_decoded (StoredRow.kept_cell bound) model.column.affinity]
  exact StoredRow.decode_get? names column _

theorem read_kept (known : model.type ≠ .any) {x : model.type.Carrier} (storable : (model.type.argument x).storable)
    (bound : arguments[index]? = some (model.type.argument x)) (kept : model.type.expected ∉ model.column.affinity.converted) :
    model.field.read ((StoredRow.kept arguments).decode table.toTable) = .ok ⟨model.type, some x⟩ := by
  have found := found_kept distinct here bound
  have kind := FieldType.stored_kind known storable
  rw [Affinity.decoded_kept (kind ▸ kept)] at found
  exact Field.read_present found (FieldType.ne_null_of_kind kind) (FieldType.read_stored storable)

theorem read_converted (known : model.type ≠ .any) {x : model.type.Carrier} (storable : (model.type.argument x).storable)
    (bound : arguments[index]? = some (model.type.argument x)) (changed : model.type.expected ∈ model.column.affinity.converted) :
    model.field.read ((StoredRow.kept arguments).decode table.toTable) =
      .error (.typeMismatch model.column.name model.type.expected (FieldType.ofAffinity model.column.affinity).expected) := by
  have found := found_kept distinct here bound
  have kind := FieldType.stored_kind known storable
  have given := Affinity.decoded_kind (kind ▸ changed)
  rw [← given]
  exact Field.read_mismatch found (FieldType.ne_null_of_kind given) (FieldType.read_converted known kind changed)

private theorem read_null (nullable : model.column.nullable = true) (bound : arguments[index]? = some .null) :
    model.field.read ((StoredRow.kept arguments).decode table.toTable) = .ok ⟨model.type, none⟩ := by
  have found := found_kept distinct here bound
  refine Field.read_missing ?_ (by simp [field, nullable])
  rw [found]
  cases model.column.affinity <;> rfl

private theorem read_held (known : model.type ≠ .any) (kept : model.type.expected ∉ model.column.affinity.converted)
    {reading : Reading} (holds : model.field.Holds reading) (bound : arguments[index]? = some reading.argument) :
    model.field.read ((StoredRow.kept arguments).decode table.toTable) = .ok reading := by
  obtain ⟨type, value⟩ := reading
  obtain rfl : type = model.type := holds.type
  cases value with
  | none =>
    have nullable : model.column.nullable = true := by simpa [field] using holds.present
    exact read_null distinct here nullable bound
  | some x => exact read_kept distinct here known holds.storable bound kept

end

end FieldModel

private theorem ofAffinity_known (affinity : Affinity) : FieldType.ofAffinity affinity ≠ .any := by
  cases affinity <;> decide

theorem ofHint_known {hint : String} {type : FieldType} (accepted : FieldType.ofHint hint = some type) : type ≠ .any := by
  rintro rfl
  unfold FieldType.ofHint at accepted
  split at accepted <;> simp at accepted

/-- A record that goes into a table comes back as it was, whatever the affinities of its columns, so long as every
field has the type that the affinity gives it. Cells are decoded by position and fields are read by name. -/
theorem record_round_trip (settings : Settings) (table : Schema.Table) (distinct : (table.columns.map (·.name)).Nodup)
    (unhinted : ∀ column ∈ table.columns, settings.typeHints.get? (Settings.hintKey table column) = none) :
    ∃ models, fields settings table = .ok models ∧
      ∀ record, List.Forall₂ Field.Holds (models.map FieldModel.field) record →
        readFields (models.map FieldModel.field)
          ((StoredRow.kept (record.map Reading.argument)).decode table.toTable) = .ok record := by
  obtain ⟨models, generated⟩ := fields_typed fun column member => ⟨_, fieldType_unhinted (unhinted column member)⟩
  refine ⟨models, generated, fun record holds => ?_⟩
  refine mapM_eq_ok.mpr (List.forall₂_iff_get.mpr ⟨holds.length_eq, fun index inFields inRecord => ?_⟩)
  have inModels : index < models.length := by simpa using inFields
  obtain ⟨source, resolved⟩ := fields_source generated (List.getElem?_eq_getElem inModels)
  have bound : (record.map Reading.argument)[index]? = some record[index].argument := by
    rw [List.getElem?_map, List.getElem?_eq_getElem inRecord]
    rfl
  have type : models[index].type = .ofAffinity models[index].column.affinity := by
    rw [fieldType_unhinted (unhinted _ (List.mem_of_getElem? source))] at resolved
    exact (Except.ok.inj resolved).symm
  have held := (List.forall₂_iff_get.mp holds).2 index inFields inRecord
  simp only [List.get_eq_getElem, List.getElem_map] at held ⊢
  refine FieldModel.read_held distinct source ?_ ?_ held bound
  · rw [type]
    exact ofAffinity_known _
  · rw [type]
    exact Affinity.expected_kept _

def mixed : Schema.Table where
  name := "t"
  columns := [⟨"id", some "INTEGER", false, none, 1, true⟩, ⟨"price", some "DECIMAL(10,2)", true, none, 0, false⟩,
    ⟨"ratio", some "DOUBLE", false, none, 0, false⟩, ⟨"note", none, true, none, 0, false⟩,
    ⟨"data", some "BLOB", true, none, 0, false⟩]

theorem record_round_trip_mixed :
    ∃ models, fields {} mixed = .ok models ∧
      readFields (models.map FieldModel.field)
          ((StoredRow.kept [.int 7, .text "1.50", .float (.ofInt 1), .null, .blob [0, 255]]).decode mixed.toTable) =
        .ok [⟨.long, some 7⟩, ⟨.text, some "1.50"⟩, ⟨.double, some (.ofInt 1)⟩, ⟨.text, none⟩, ⟨.bytes, some [0, 255]⟩] := by
  obtain ⟨models, generated, back⟩ := record_round_trip {} mixed (by decide) (fun _ _ => rfl)
  refine ⟨models, generated, back [⟨.long, some 7⟩, ⟨.text, some "1.50"⟩, ⟨.double, some (.ofInt 1)⟩, ⟨.text, none⟩,
    ⟨.bytes, some [0, 255]⟩] ?_⟩
  cases generated
  exact .cons ⟨rfl, by decide, by decide⟩ (.cons ⟨rfl, by decide, by decide⟩ (.cons ⟨rfl, by decide, by decide⟩
    (.cons ⟨rfl, by decide, by decide⟩ (.cons ⟨rfl, by decide, by decide⟩ .nil))))

/-- A hint is kept to if the column gives cells of the class that the hinted type asks for as they are. Every other
column gives all of them converted, and no value of the type can be read back. -/
theorem hinted_read {settings : Settings} {table : Schema.Table} {models : List FieldModel}
    (generated : fields settings table = .ok models) (distinct : (table.columns.map (·.name)).Nodup)
    {index : Nat} {column : Schema.Column} (here : table.columns[index]? = some column) {hint : String} {type : FieldType}
    (hinted : settings.typeHints.get? (Settings.hintKey table column) = some hint)
    (accepted : FieldType.ofHint hint = some type) :
    ∃ model, models[index]? = some model ∧ model.column = column ∧ model.type = type ∧
      ∀ (x : type.Carrier) (arguments : List Value), (type.argument x).storable →
        arguments[index]? = some (type.argument x) →
        (type.expected ∉ column.affinity.converted →
          model.field.read ((StoredRow.kept arguments).decode table.toTable) = .ok ⟨type, some x⟩) ∧
        (type.expected ∈ column.affinity.converted →
          model.field.read ((StoredRow.kept arguments).decode table.toTable) =
            .error (.typeMismatch column.name type.expected (FieldType.ofAffinity column.affinity).expected)) := by
  rw [← fields_columns generated, List.getElem?_map] at here
  obtain ⟨model, own, rfl⟩ := Option.map_eq_some_iff.mp here
  obtain ⟨source, resolved⟩ := fields_source generated own
  obtain rfl : type = model.type := Except.ok.inj ((fieldType_hinted hinted accepted).symm.trans resolved)
  refine ⟨model, own, rfl, rfl, fun x arguments storable bound => ⟨fun kept => ?_, fun changed => ?_⟩⟩
  · exact FieldModel.read_kept distinct source (ofHint_known accepted) storable bound kept
  · exact FieldModel.read_converted distinct source (ofHint_known accepted) storable bound changed

/-- A table with one column, of the declared type, and a hint that its cells are truth values. -/
def flagged (declared : String) : Schema.Table := ⟨"t", [⟨"active", some declared, false, none, 0, false⟩]⟩

def flagHint : Settings where
  typeHints := ⟨[("t.active", "Bool")], List.pairwise_singleton _ _⟩

theorem hinted_read_integer :
    ∃ model, fields flagHint (flagged "INTEGER") = .ok [model] ∧ model.type = .boolean ∧
      model.field.read ((StoredRow.kept [.bool true]).decode (flagged "INTEGER").toTable) = .ok ⟨.boolean, some true⟩ := by
  have generated : fields flagHint (flagged "INTEGER") =
      .ok [⟨"active", ⟨"active", some "INTEGER", false, none, 0, false⟩, .boolean⟩] := rfl
  have first : (flagged "INTEGER").columns[0]? = some ⟨"active", some "INTEGER", false, none, 0, false⟩ := rfl
  have hinted : flagHint.typeHints.get?
      (Settings.hintKey (flagged "INTEGER") ⟨"active", some "INTEGER", false, none, 0, false⟩) = some "Bool" := rfl
  obtain ⟨model, own, -, -, read⟩ := hinted_read generated (by decide) first hinted rfl
  cases own
  exact ⟨_, generated, rfl, (read true [.bool true] rfl rfl).1 (by decide)⟩

/-- A column that is declared as one of truth values has numeric affinity, and its integers come back as texts. -/
theorem boolean_column_mismatch :
    ∃ model, fields flagHint (flagged "BOOLEAN") = .ok [model] ∧ model.type = .boolean ∧
      model.field.read ((StoredRow.kept [.bool true]).decode (flagged "BOOLEAN").toTable) =
        .error (.typeMismatch "active" "INTEGER" "TEXT") :=
  ⟨⟨"active", ⟨"active", some "BOOLEAN", false, none, 0, false⟩, .boolean⟩, rfl, rfl, rfl⟩

end Code

end Relmap
