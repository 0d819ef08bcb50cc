import Relmap.Proofs.SourceOrder

/-! What one hint changes. It stands under a text made of two names, so it is for every column whose names make up that text, and
the generated code differs in nothing but the types of these columns' fields. -/

namespace Relmap

theorem lookup_entry {α : Type} (name : String) (value : α) (rest : List (String × α)) (other : String) :
    ((name, value) :: rest).lookup other = if other = name then some value else rest.lookup other := by
  rw [List.lookup_cons]
  by_cases same : other = name
  · rw [beq_iff_eq.mpr same, if_pos same]
  · rw [beq_eq_false_iff_ne.mpr same, if_neg same]

private theorem Dictionary.get?_insert (dictionary : Dictionary) (key value other : String) :
    (dictionary.insert key value).get? other = if other = key then some value else dictionary.get? other := by
  change (assign key value dictionary.entries).lookup other = if other = key then some value else dictionary.entries.lookup other
  induction dictionary.entries with
  | nil => exact lookup_entry key value [] other
  | cons entry entries ih =>
    obtain ⟨name, previous⟩ := entry
    rw [assign, lookup_entry name]
    split
    · rw [lookup_entry, lookup_entry]
    · split
      · next same =>
        rw [lookup_entry, same]
        split <;> rfl
      · next different =>
        rw [lookup_entry, ih]
        by_cases own : other = name
        · rw [if_pos own, if_pos own, if_neg (fun same => different (same.symm.trans own))]
        · rw [if_neg own, if_neg own]

namespace Settings

def withHint (settings : Settings) (key hint : String) : Settings :=
  { settings with typeHints := settings.typeHints.insert key hint }

theorem fieldType_withHint (settings : Settings) {key hint : String} {type : FieldType}
    (accepted : FieldType.ofHint hint = some type) (table : Schema.Table) (column : Schema.Column) :
    (settings.withHint key hint).fieldType table column =
      if hintKey table column = key then .ok type else settings.fieldType table column := by
  have stored := settings.typeHints.get?_insert key hint (hintKey table column)
  split
  · next own =>
    rw [if_pos own] at stored
    exact Code.fieldType_hinted stored accepted
  · next foreign =>
    rw [if_neg foreign] at stored
    rw [fieldType, fieldType, hint?, hint?, withHint, stored]

/-- A table's name goes on, behind a dot, with the beginning of the other column's name. -/
def Shifted (table : Schema.Table) (column : Schema.Column) (other : Schema.Table) (field : Schema.Column) : Prop :=
  ∃ middle, other.name = table.name ++ "." ++ middle ∧ column.name = middle ++ "." ++ field.name

/-- Where one text is cut at two of its dots, the longer front goes on behind the shorter one's dot. -/
theorem longer_dot {first second left right : String} {middle : List Char} (front : left.toList = first.toList ++ middle)
    (back : '.' :: second.toList = middle ++ '.' :: right.toList) :
    (first = left ∧ second = right) ∨ ∃ middle, left = first ++ "." ++ middle ∧ second = middle ++ "." ++ right := by
  cases middle with
  | nil =>
    rw [List.append_nil] at front
    exact .inl ⟨String.toList_inj.mp front.symm, String.toList_inj.mp (List.cons.inj back).2⟩
  | cons dot middle =>
    obtain ⟨rfl, rest⟩ := List.cons.inj back
    refine .inr ⟨String.ofList middle, String.toList_inj.mp ?_, String.toList_inj.mp ?_⟩
    · simpa using front
    · simpa using rest

private theorem append_dot {first second left right : String} :
    first ++ "." ++ second = left ++ "." ++ right ↔ (first = left ∧ second = right) ∨
      (∃ middle, left = first ++ "." ++ middle ∧ second = middle ++ "." ++ right) ∨
      ∃ middle, first = left ++ "." ++ middle ∧ right = middle ++ "." ++ second := by
  constructor
  · intro same
    have letters : first.toList ++ '.' :: second.toList = left.toList ++ '.' :: right.toList := by
      simpa using congrArg String.toList same
    rcases List.append_eq_append_iff.mp letters with ⟨middle, front, back⟩ | ⟨middle, front, back⟩
    · exact (longer_dot front back).imp_right .inl
    · exact (longer_dot front back).imp (fun ⟨front, back⟩ => ⟨front.symm, back.symm⟩) .inr
  · rintro (⟨rfl, rfl⟩ | ⟨middle, rfl, rfl⟩ | ⟨middle, rfl, rfl⟩)
    · rfl
    all_goals simp only [String.append_assoc]

theorem hintKey_eq {table other : Schema.Table} {column field : Schema.Column} :
    hintKey table column = hintKey other field ↔
      (table.name = other.name ∧ column.name = field.name) ∨ Shifted table column other field ∨ Shifted other field table column :=
  append_dot

end Settings

namespace Code

open Settings (hintKey Shifted)

/-- The field with this type instead, if it is one that the key is for. -/
def FieldModel.retyped (key : String) (type : FieldType) (table : Schema.Table) (field : FieldModel) : FieldModel :=
  if hintKey table field.column = key then { field with type } else field

def EntityModel.retyped (key : String) (type : FieldType) (entity : EntityModel) : EntityModel :=
  { entity with fields := entity.fields.map (.retyped key type entity.table) }

variable {settings : Settings} {key hint : String} {type : FieldType}

/-- What does not depend on a field's type stays. -/
theorem map_retyped {α : Type} {content : FieldModel → α} (typeless : ∀ field type, content { field with type } = content field)
    (table : Schema.Table) (models : List FieldModel) :
    (models.map (.retyped key type table)).map content = models.map content := by
  rw [List.map_map]
  refine List.map_congr_left fun field _ => ?_
  rw [Function.comp, FieldModel.retyped]
  split
  · exact typeless field type
  · rfl

private theorem fields_withHint (accepted : FieldType.ofHint hint = some type) {table : Schema.Table}
    {models : List FieldModel}
    (generated : fields settings table = .ok models) :
    fields (settings.withHint key hint) table = .ok (models.map (.retyped key type table)) := by
  obtain ⟨sources, resolved⟩ := fields_ok.mp generated
  refine fields_ok.mpr ⟨?_, List.forall_mem_map.mpr fun model member => ?_⟩
  · rw [map_retyped fun _ _ => rfl, sources]
  · rw [settings.fieldType_withHint accepted, FieldModel.retyped]
    split
    · rfl
    · exact resolved model member

private theorem entityNames_withHint (names : Names) (tables : List Schema.Table) :
    entityNames (settings.withHint key hint) names tables = entityNames settings names tables := by
  induction tables generalizing names with
  | nil => rfl
  | cons table tables ih => exact congrArg (_ :: ·) (ih _)

private theorem entities_withHint (accepted : FieldType.ofHint hint = some type) {tables : List Schema.Table}
    {models : List EntityModel} (generated : entities tables settings = .ok models) :
    entities tables (settings.withHint key hint) = .ok (models.map (.retyped key type)) := by
  obtain ⟨sources, each⟩ := entities_ok.mp generated
  refine entities_ok.mpr ⟨?_, List.forall_mem_map.mpr fun model member => fields_withHint accepted (each model member)⟩
  rw [entityNames_withHint, ← sources, List.map_map]
  rfl

/-- What a stretch of the generated text is for. A field is told by the key of the hint that it goes by. -/
inductive Part where
  | header
  | metadata
  | accessor
  | entity
  | field (key : String)
  | mapper
  | registry

structure Piece where
  part : Part
  lines : List String

def fieldLine (identifier : String) (type : FieldType) (nullable : Bool) : String :=
  "    pub " ++ identifier ++ ": " ++ type.spelled nullable ++ ","

def fieldPiece (table : Schema.Table) (field : FieldModel) : Piece where
  part := .field (hintKey table field.column)
  lines := [fieldLine field.identifier field.type field.column.nullable]

def entityPieces (index : Nat) (entity : EntityModel) : List Piece :=
  [⟨.accessor, "" :: accessorLines index entity⟩,
    ⟨.entity, ["", "/// Row of table \x60" ++ entity.table.name ++ "\x60.", "#[derive(Debug, Clone, PartialEq)]",
      "pub struct " ++ entity.name ++ " \x7b"]⟩]
    ++ entity.fields.map (fieldPiece entity.table)
    ++ [⟨.entity, ["\x7d"]⟩, ⟨.mapper, "" :: mapperLines entity⟩, ⟨.entity, "" :: entityImplLines entity⟩]

/-- The generated text in pieces, each of them for one thing. -/
def pieces (runtime : String) (entities : List EntityModel) : List Piece :=
  [⟨.header, header runtime⟩] ++ entities.map (fun entity => ⟨.metadata, columnLines entity⟩)
    ++ [⟨.metadata, tableLines entities⟩] ++ (entities.zipIdx.flatMap fun (entity, index) => entityPieces index entity)
    ++ [⟨.registry, registryLines⟩]

private theorem entityLines_pieces (index : Nat) (entity : EntityModel) :
    (entityPieces index entity).flatMap (·.lines) = entityLines index entity := by
  have declarations : entity.fields.flatMap (fun field => (fieldPiece entity.table field).lines) =
      indented (entity.fields.map fun field =>
        "pub " ++ field.identifier ++ ": " ++ field.type.spelled field.column.nullable ++ ",") := by
    rw [indented, List.map_map, List.map_eq_flatMap]
    refine List.flatMap_congr fun field _ => congrArg ([·]) ?_
    simp only [fieldLine, Function.comp, ← String.append_assoc]
    rfl
  rw [entityPieces, List.flatMap_append, List.flatMap_append, List.flatMap_map, declarations]
  simp [entityLines, structLines, block]

private theorem lines_pieces (runtime : String) (entities : List EntityModel) :
    (pieces runtime entities).flatMap (·.lines) = lines runtime entities := by
  simp only [pieces, lines, List.flatMap_append, List.flatMap_map, List.flatMap_singleton, List.flatMap_assoc,
    entityLines_pieces]

/-- The same piece, or a field that goes by the key with another type. -/
inductive Piece.Retyped (key : String) (type : FieldType) : Piece → Piece → Prop where
  | same {piece : Piece} (foreign : piece.part ≠ .field key) : Retyped key type piece piece
  | field (identifier : String) (previous : FieldType) (nullable : Bool) :
    Retyped key type ⟨.field key, [fieldLine identifier previous nullable]⟩ ⟨.field key, [fieldLine identifier type nullable]⟩

private theorem fieldPiece_retyped (table : Schema.Table) (field : FieldModel) :
    Piece.Retyped key type (fieldPiece table field) (fieldPiece table (field.retyped key type table)) := by
  rw [FieldModel.retyped]
  split
  · next own =>
    subst own
    exact .field _ _ _
  · next foreign => exact .same fun same => foreign (Part.field.inj same)

private theorem mapperLines_retyped (entity : EntityModel) :
    mapperLines (entity.retyped key type) = mapperLines entity := by
  have readers : (entity.retyped key type).fields.map readerElement = entity.fields.map readerElement :=
    map_retyped (fun _ _ => rfl) entity.table entity.fields
  rw [mapperLines, mapperLines, readers]
  rfl

private theorem entityPieces_retyped (index : Nat) (entity : EntityModel) :
    List.Forall₂ (Piece.Retyped key type) (entityPieces index entity) (entityPieces index (entity.retyped key type)) := by
  have fields : List.Forall₂ (Piece.Retyped key type) (entity.fields.map (fieldPiece entity.table))
      ((entity.fields.map (.retyped key type entity.table)).map (fieldPiece entity.table)) := by
    rw [List.map_map, List.forall₂_map_left_iff, List.forall₂_map_right_iff, List.forall₂_same]
    exact fun field _ => fieldPiece_retyped entity.table field
  rw [entityPieces, entityPieces, mapperLines_retyped]
  refine List.rel_append (List.rel_append ?_ fields) ?_
  · exact .cons (.same nofun) (.cons (.same nofun) .nil)
  · exact .cons (.same nofun) (.cons (.same nofun) (.cons (.same nofun) .nil))

private theorem pieces_retyped (runtime : String) (entities : List EntityModel) :
    List.Forall₂ (Piece.Retyped key type) (pieces runtime entities) (pieces runtime (entities.map (.retyped key type))) := by
  have metadata : tableLines (entities.map (.retyped key type)) = tableLines entities := by
    rw [tableLines, tableLines, List.map_map]
    rfl
  have declarations : List.Forall₂ (Piece.Retyped key type)
      (entities.zipIdx.flatMap fun (entity, index) => entityPieces index entity)
      ((entities.map (.retyped key type)).zipIdx.flatMap fun (entity, index) => entityPieces index entity) := by
    rw [List.zipIdx_map, List.flatMap_map]
    refine List.rel_flatMap (List.forall₂_same.mpr fun _ _ => rfl) ?_
    rintro ⟨entity, index⟩ _ rfl
    exact entityPieces_retyped index entity
  rw [pieces, pieces, metadata, List.map_map]
  refine List.rel_append (List.rel_append (List.rel_append (List.rel_append ?_ ?_) ?_) declarations) ?_
  · exact .cons (.same nofun) .nil
  · refine List.forall₂_map_left_iff.mpr (List.forall₂_map_right_iff.mpr (List.forall₂_same.mpr fun entity _ => ?_))
    exact .same nofun
  · exact .cons (.same nofun) .nil
  · exact .cons (.same nofun) .nil

def written (pieces : List Piece) : String := printed (pieces.flatMap (·.lines))

private theorem render_withHint (accepted : FieldType.ofHint hint = some type) {tables : List Schema.Table}
    {text : String}
    (rendered : render tables settings = .ok text) :
    ∃ models, entities tables settings = .ok models ∧ text = written (pieces settings.runtime models) ∧
      render tables (settings.withHint key hint) = .ok (written (pieces settings.runtime (models.map (.retyped key type)))) ∧
      List.Forall₂ (Piece.Retyped key type) (pieces settings.runtime models)
        (pieces settings.runtime (models.map (.retyped key type))) := by
  obtain ⟨models, generated, rfl⟩ := map_eq_ok.mp rendered
  refine ⟨models, generated, ?_, map_eq_ok.mpr ⟨_, entities_withHint accepted generated, ?_⟩, pieces_retyped _ models⟩
  all_goals
    rw [written, lines_pieces]
    rfl

/-- A hint for a column decides its field's type. Of the other columns it changes those alone whose key is the same text, since a
name that has a dot in it can lend a part to the other name; and in the generated text only the types of these fields change. -/
theorem withHint_confined {tables : List Schema.Table} {table : Schema.Table} {column : Schema.Column}
    (distinct : (tables.map (·.name)).Nodup) (apart : ∀ table ∈ tables, (table.columns.map (·.name)).Nodup)
    (listed : table ∈ tables) (declared : column ∈ table.columns) (accepted : FieldType.ofHint hint = some type) :
    (settings.withHint (hintKey table column) hint).fieldType table column = .ok type ∧
    (∀ other ∈ tables, ∀ field ∈ other.columns, (other, field) ≠ (table, column) →
      (Shifted table column other field ∨ Shifted other field table column →
        (settings.withHint (hintKey table column) hint).fieldType other field = .ok type) ∧
      (¬ (Shifted table column other field ∨ Shifted other field table column) →
        (settings.withHint (hintKey table column) hint).fieldType other field = settings.fieldType other field)) ∧
    ∀ text, render tables settings = .ok text →
      ∃ models, entities tables settings = .ok models ∧ text = written (pieces settings.runtime models) ∧
        render tables (settings.withHint (hintKey table column) hint) =
          .ok (written (pieces settings.runtime (models.map (.retyped (hintKey table column) type)))) ∧
        List.Forall₂ (Piece.Retyped (hintKey table column) type) (pieces settings.runtime models)
          (pieces settings.runtime (models.map (.retyped (hintKey table column) type))) := by
  refine ⟨?own, fun other member field inside foreign => ⟨fun shifted => ?clash, fun unshifted => ?kept⟩, ?text⟩
  case own =>
    rw [settings.fieldType_withHint accepted, if_pos rfl]
  case clash =>
    rw [settings.fieldType_withHint accepted, if_pos (Settings.hintKey_eq.mpr (.inr shifted)).symm]
  case kept =>
    rw [settings.fieldType_withHint accepted, if_neg]
    intro same
    rcases Settings.hintKey_eq.mp same.symm with ⟨sameTable, sameColumn⟩ | shifted
    · obtain rfl := List.inj_on_of_nodup_map distinct listed member sameTable
      obtain rfl := List.inj_on_of_nodup_map (apart table listed) declared inside sameColumn
      exact foreign rfl
    · exact unshifted shifted
  case text =>
    exact fun text rendered => render_withHint accepted rendered

def dottedColumn : Schema.Column := { name := "b.c", declaredType := some "TEXT" }

def sharingColumn : Schema.Column := { name := "c", declaredType := some "TEXT" }

def foreignColumn : Schema.Column := { name := "d", declaredType := some "TEXT" }

def plainTable : Schema.Table := ⟨"a", [dottedColumn]⟩

def dottedTable : Schema.Table := ⟨"a.b", [sharingColumn, foreignColumn]⟩

/-- The hint for the column of the one table is for the first column of the other, too. -/
theorem withHint_confined_dotted :
    ([plainTable, dottedTable].map (·.name)).Nodup ∧
    (∀ table ∈ [plainTable, dottedTable], (table.columns.map (·.name)).Nodup) ∧
    plainTable ∈ [plainTable, dottedTable] ∧ dottedColumn ∈ plainTable.columns ∧ FieldType.ofHint "Int" = some .int ∧
    hintKey plainTable dottedColumn = "a.b.c" ∧
    (Settings.withHint {} (hintKey plainTable dottedColumn) "Int").fieldType plainTable dottedColumn = .ok .int ∧
    (Settings.withHint {} (hintKey plainTable dottedColumn) "Int").fieldType dottedTable sharingColumn = .ok .int ∧
    (Settings.withHint {} (hintKey plainTable dottedColumn) "Int").fieldType dottedTable foreignColumn = .ok .text ∧
    ∃ text changed, render [plainTable, dottedTable] {} = .ok text ∧
      render [plainTable, dottedTable] (Settings.withHint {} (hintKey plainTable dottedColumn) "Int") = .ok changed := by
  have distinct : ([plainTable, dottedTable].map (·.name)).Nodup := by decide
  have apart : ∀ table ∈ [plainTable, dottedTable], (table.columns.map (·.name)).Nodup := by decide
  have listed : plainTable ∈ [plainTable, dottedTable] := by decide
  have declared : dottedColumn ∈ plainTable.columns := by decide
  have accepted : FieldType.ofHint "Int" = some .int := by decide
  have clash : Shifted plainTable dottedColumn dottedTable sharingColumn := ⟨"b", by decide, by decide⟩
  have unshifted : ¬ (Shifted plainTable dottedColumn dottedTable foreignColumn ∨
      Shifted dottedTable foreignColumn plainTable dottedColumn) := by
    intro shifted
    exact absurd (Settings.hintKey_eq.mpr (.inr shifted)) (by decide)
  obtain ⟨own, others, generated⟩ := @withHint_confined {} _ _ _ _ _ distinct apart listed declared accepted
  obtain ⟨models, typed⟩ : ∃ models, entities [plainTable, dottedTable] {} = .ok models :=
    entities_typed fun _ _ _ _ => ⟨_, fieldType_unhinted rfl⟩
  have rendered : render [plainTable, dottedTable] {} = .ok (printed (lines "rowcast_core" models)) :=
    map_eq_ok.mpr ⟨models, typed, rfl⟩
  obtain ⟨_, _, _, changed, _⟩ := generated _ rendered
  have shared := (others dottedTable (by decide) sharingColumn (by decide) (by decide)).1 (.inl clash)
  have kept := (others dottedTable (by decide) foreignColumn (by decide) (by decide)).2 unshifted
  exact ⟨distinct, apart, listed, declared, accepted, by decide, own, shared, kept.trans (by decide), _, _, rendered, changed⟩

theorem withHint_spreads : ¬ ∀ (tables : List Schema.Table) (settings : Settings) (table : Schema.Table)
    (column : Schema.Column) (hint : String) (type : FieldType),
    (tables.map (·.name)).Nodup → (∀ table ∈ tables, (table.columns.map (·.name)).Nodup) → table ∈ tables →
    column ∈ table.columns → FieldType.ofHint hint = some type →
    ∀ other ∈ tables, ∀ field ∈ other.columns, (other, field) ≠ (table, column) →
      (settings.withHint (hintKey table column) hint).fieldType other field = settings.fieldType other field := by
  intro confined
  have kept := confined [plainTable, dottedTable] {} plainTable dottedColumn "Int" .int (by decide) (by decide) (by decide)
    (by decide) (by decide) dottedTable (by decide) sharingColumn (by decide) (by decide)
  exact absurd kept (by decide)

end Code

end Relmap
