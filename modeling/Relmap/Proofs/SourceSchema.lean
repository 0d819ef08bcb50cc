import Relmap.Proofs.GeneratedSource
import Relmap.Proofs.HintFaults

/-! The generated source denotes the schema. Read back, its arrays give the tables with all that a query needs to know
of them, and its functions and mappers belong to these tables. -/

namespace Relmap

namespace Source

namespace Declaration

def columns? : Declaration → Option (Declared Column)
  | columns array => some array
  | _ => none

def tables? : Declaration → Option (Declared Entry)
  | tables array => some array
  | _ => none

def accessor? : Declaration → Option Accessor
  | accessor function => some function
  | _ => none

def mapper? : Declaration → Option Mapper
  | mapper found => some found
  | _ => none

end Declaration

/-- The elements of the only array of that name. -/
def resolve (arrays : List (Declared Column)) (name : String) : Option (List Column) :=
  match arrays.filter (·.name == name) with
  | [only] => some only.elements
  | _ => none

/-- The tables that the only array of tables has, with their columns from the arrays that they refer to. -/
def registry (found : List Declaration) : Option (List Table) :=
  match found.filterMap Declaration.tables? with
  | [only] => only.elements.mapM fun entry =>
      (resolve (found.filterMap Declaration.columns?) entry.columns).map fun columns => ⟨entry.name, entry.typeId, columns⟩
  | _ => none

def given (found : List Declaration) (function : Accessor) : Option Table :=
  (registry found).bind (·[function.index]?)

def declared (text : String) : Option (List Declaration) := (tokens text).map declarations

open Code Identifier

/-- Declarations that say what the schema says of the tables of some entities: which columns they have, which function
gives which of them, and from which columns a row is read. -/
structure Denotes (found : List Declaration) (models : List EntityModel) : Prop where
  tables : registry found = some (models.map (·.table.toTable))
  columnLengths : ∀ array ∈ found.filterMap Declaration.columns?, array.length = array.elements.length
  tableLengths : ∀ array ∈ found.filterMap Declaration.tables?, array.length = array.elements.length
  indices : (found.filterMap Declaration.accessor?).map (·.index) = List.range models.length
  accessors : (found.filterMap Declaration.accessor?).map (fun function => (function.name, given found function)) =
    models.map fun model => (accessorName model, some model.table.toTable)
  mappers : (found.filterMap Declaration.mapper?).map
      (fun mapper => (mapper.entity, mapper.name, mapper.fields.map fun field => (field.column, field.optional))) =
    models.map fun model => (model.name, mapperName model.name,
      model.table.toTable.columns.map fun column => (column.name, column.nullable))
  assignments : (found.filterMap Declaration.mapper?).map (·.fields.map (·.identifier)) =
    models.map (·.fields.map (·.identifier))

def expected (models : List EntityModel) : List Declaration :=
  models.map (fun model => .columns (columnsOf model)) ++ [.tables (tablesOf models)] ++
    models.zipIdx.flatMap fun (model, index) => [.accessor ⟨accessorName model, index⟩, .mapper (mapperOf model)]

private theorem lines_shows {runtime : String} {models : List EntityModel} (path : IsPath runtime)
    (commented : ∀ model ∈ models, OneLine model.table.name) (named : ∀ model ∈ models, IsPath model.name)
    (identifiers : ∀ model ∈ models, ∀ field ∈ model.fields, IsPath field.identifier) :
    Shows (Code.lines runtime models) (expected models) := by
  have columns : Shows (models.flatMap columnLines) (models.map fun model => .columns (columnsOf model)) := by
    rw [← List.flatMap_singleton' (models.map _), List.flatMap_map]
    exact .flatMap fun model _ => columnLines_shows model
  have entities : Shows (models.zipIdx.flatMap fun (model, index) => entityLines index model)
      (models.zipIdx.flatMap fun (model, index) => [.accessor ⟨accessorName model, index⟩, .mapper (mapperOf model)]) := by
    refine .flatMap fun placed member => ?_
    have inside : placed.1 ∈ models := List.fst_mem_of_mem_zipIdx member
    exact entityLines_shows (commented _ inside) (named _ inside) (identifiers _ inside) placed.2
  have arrays := ((header_shows path).append columns).append (tableLines_shows models)
  have whole := (arrays.append entities).append registryLines_shows
  rwa [List.nil_append, List.append_nil] at whole

section Expected

variable (models : List EntityModel)

private theorem expected_filterMap {α : Type} (pick : Declaration → Option α) : (expected models).filterMap pick =
    models.filterMap (fun model => pick (.columns (columnsOf model))) ++ (pick (.tables (tablesOf models))).toList ++
      models.zipIdx.flatMap fun (model, index) =>
        (pick (.accessor ⟨accessorName model, index⟩)).toList ++ (pick (.mapper (mapperOf model))).toList := by
  have pair : ∀ first second, [first, second].filterMap pick = (pick first).toList ++ (pick second).toList := by
    intro first second
    cases one : pick first <;> cases other : pick second <;> simp [one, other]
  have single : ∀ first, [first].filterMap pick = (pick first).toList := by
    intro first
    cases one : pick first <;> simp [one]
  simp only [expected, List.filterMap_append, List.filterMap_map, List.filterMap_flatMap, pair, single, Function.comp_def]

theorem expected_columns : (expected models).filterMap Declaration.columns? = models.map columnsOf := by
  simp [expected_filterMap, Declaration.columns?]

theorem expected_tables : (expected models).filterMap Declaration.tables? = [tablesOf models] := by
  simp [expected_filterMap, Declaration.tables?]

theorem expected_accessors : (expected models).filterMap Declaration.accessor? =
    models.zipIdx.map fun (model, index) => ⟨accessorName model, index⟩ := by
  simp [expected_filterMap, Declaration.accessor?, List.map_eq_flatMap]

theorem expected_mappers : (expected models).filterMap Declaration.mapper? = models.map mapperOf := by
  rw [← map_placed mapperOf models]
  simp [expected_filterMap, Declaration.mapper?, List.map_eq_flatMap]

end Expected

/-- The name of an array leads back to its table, since no other table has it. -/
theorem resolve_own {models : List EntityModel} (apart : (models.map columnsName).Nodup) {model : EntityModel}
    (member : model ∈ models) : resolve (models.map columnsOf) (columnsName model) = some model.table.toTable.columns := by
  have only : (models.map columnsOf).filter (·.name == columnsName model) = [columnsOf model] := by
    induction models with
    | nil => exact absurd member List.not_mem_nil
    | cons head rest ih =>
      obtain ⟨new, others⟩ := List.nodup_cons.mp apart
      rw [List.map_cons]
      rcases List.mem_cons.mp member with rfl | later
      · have own : (columnsOf model).name == columnsName model := beq_self_eq_true _
        rw [List.filter_cons, if_pos own, List.cons_inj_right, List.filter_eq_nil_iff]
        intro array inside same
        obtain ⟨other, present, rfl⟩ := List.mem_map.mp inside
        exact new (List.mem_map.mpr ⟨other, present, beq_iff_eq.mp same⟩)
      · have differs : ¬ (columnsOf head).name == columnsName model := by
          intro same
          exact new (List.mem_map.mpr ⟨model, later, (beq_iff_eq.mp same).symm⟩)
        rw [List.filter_cons, if_neg differs, ih others later]
  rw [resolve, only]
  rfl

private theorem mapM_some {α β : Type} {f : α → Option β} {of : α → β} {items : List α}
    (each : ∀ item ∈ items, f item = some (of item)) : items.mapM f = some (items.map of) := by
  induction items with
  | nil => rfl
  | cons item items ih =>
    obtain ⟨own, others⟩ := List.forall_mem_cons.mp each
    rw [List.mapM_cons, own, ih others]
    rfl

theorem registry_expected {models : List EntityModel} (apart : (models.map columnsName).Nodup) :
    registry (expected models) = some (models.map (·.table.toTable)) := by
  rw [registry, expected_tables, expected_columns]
  change (models.map entryOf).mapM _ = _
  rw [List.mapM_map]
  refine mapM_some fun model member => ?_
  change (resolve (models.map columnsOf) (columnsName model)).map _ = _
  rw [resolve_own apart member]
  rfl

/-- A function's index is the place of its own table. -/
theorem given_expected {models : List EntityModel} (apart : (models.map columnsName).Nodup) {placed : EntityModel × Nat}
    (member : placed ∈ models.zipIdx) :
    given (expected models) ⟨accessorName placed.1, placed.2⟩ = some placed.1.table.toTable := by
  have there : models[placed.2]? = some placed.1 := List.mem_zipIdx_iff_getElem?.mp member
  rw [given, registry_expected apart, Option.bind_some, List.getElem?_map, there]
  rfl

private theorem expected_denotes {models : List EntityModel} (apart : (models.map columnsName).Nodup)
    (fields : ∀ model ∈ models, model.fields.map (·.column) = model.table.columns) : Denotes (expected models) models := by
  constructor
  case tables => exact registry_expected apart
  case columnLengths =>
    rw [expected_columns]
    exact List.forall_mem_map.mpr fun model _ => (List.length_map _).symm
  case tableLengths =>
    rw [expected_tables]
    exact List.forall_mem_singleton.mpr (List.length_map _).symm
  case indices =>
    rw [expected_accessors, List.map_map, List.range_eq_range']
    exact List.zipIdx_map_snd 0 models
  case accessors =>
    rw [expected_accessors, List.map_map, ← map_placed fun model => (accessorName model, some model.table.toTable)]
    refine List.map_congr_left fun placed member => ?_
    exact congrArg (Prod.mk (accessorName placed.1)) (given_expected apart member)
  case mappers =>
    rw [expected_mappers, List.map_map]
    refine List.map_congr_left fun model member => ?_
    have columns := congrArg (List.map fun column => (column.name, column.nullable)) (fields model member)
    rw [List.map_map] at columns
    simpa [mapperOf, readingOf, Function.comp_def, Schema.Table.toTable, Schema.Column.toColumn] using columns
  case assignments =>
    rw [expected_mappers, List.map_map]
    refine List.map_congr_left fun model _ => ?_
    simp [mapperOf, readingOf]

/-- Names in settings that stand in the source as they are. -/
structure PathsOnly (settings : Settings) : Prop where
  runtime : IsPath settings.runtime
  names : ∀ entry ∈ settings.structNames.entries, IsPath entry.2

private theorem numbered_path {base : String} (path : IsPath base) (n : Nat) : IsPath (numbered base "" n) := by
  cases n with
  | zero => exact path
  | succ n =>
    have digits : ∀ c ∈ (toString (n + 2)).toList, isWordChar c = true := by
      rw [number_toList]
      exact fun c member => digit_wordChar (digits_digit c member)
    exact (path.append (spelled_all rfl)).append digits

private theorem isType_path {name : String} (isType : IsType name.toList) : IsPath name := by
  obtain ⟨⟨first, own, -⟩, letters⟩ := isType
  refine letters_path ?_ fun c member => ?_
  · rintro rfl
    cases own
  · simp [isWordChar, letters c member]

private theorem entities_paths {tables : List Schema.Table} {settings : Settings} {models : List EntityModel}
    (generated : entities tables settings = .ok models) (paths : PathsOnly settings) : ∀ model ∈ models, IsPath model.name := by
  intro model member
  obtain ⟨n, own⟩ := entities_numbered generated model member
  rw [own]
  apply numbered_path
  rcases baseName_cases settings model.table with ⟨entry, inside, same⟩ | derived
  · exact same ▸ paths.names entry inside
  · exact isType_path derived

private theorem identifiers_paths {settings : Settings} {table : Schema.Table} {models : List FieldModel}
    (generated : fields settings table = .ok models) : ∀ model ∈ models, IsPath model.identifier := by
  intro model member
  obtain ⟨nonempty, letters⟩ := fields_plain generated model member
  refine letters_path nonempty fun c inside => ?_
  rcases letters c inside with plain | rfl
  · exact (plain_wordChar plain).1
  · decide

/-- Reading the source of any schema gives the schema back. Names of columns, their defaults and the names of tables are
what they were, whatever characters they have, as long as the names of tables do not end the comments that they stand in. -/
theorem source_denotes {tables : List Schema.Table} {settings : Settings} (distinct : (tables.map (·.name)).Nodup)
    (commented : ∀ table ∈ tables, OneLine table.name) (paths : PathsOnly settings) (valid : settings.validate = .ok ()) :
    ∃ models text found, entities tables settings = .ok models ∧ render tables settings = .ok text ∧
      declared text = some found ∧ Denotes found models ∧ (models.map (·.table)).Perm tables ∧
      (models.map (·.table)).Pairwise fun first second => first.name < second.name := by
  obtain ⟨models, generated⟩ := entities_typed fun table _ column _ => validate_typed valid table column
  have sources := entities_tables generated
  have permuted : (models.map (·.table)).Perm tables := sources ▸ List.mergeSort_perm tables _
  have ordered : (models.map (·.table)).Pairwise fun first second => first.name < second.name := by
    have apart : (models.map (·.table)).Pairwise fun first second => first.name ≠ second.name :=
      List.pairwise_map.mp ((permuted.map Schema.Table.name).nodup_iff.mpr distinct)
    have sorted := sortedTables_ordered tables
    rw [← sources] at sorted
    exact (sorted.and apart).imp fun ⟨below, differs⟩ => Std.lt_of_le_of_ne below differs
  have fields : ∀ model ∈ models, Code.fields settings model.table = .ok model.fields := (entities_ok.mp generated).2
  have unbroken : ∀ model ∈ models, OneLine model.table.name := by
    intro model member
    exact commented model.table (permuted.subset (List.mem_map_of_mem member))
  obtain ⟨read, printed, declares⟩ := lines_shows paths.runtime unbroken (entities_paths generated paths)
    fun model member => identifiers_paths (fields model member)
  refine ⟨models, _, expected models, generated, map_eq_ok.mpr ⟨models, generated, rfl⟩, ?_, ?_, permuted, ordered⟩
  · rw [declared, printed.tokens, Option.map_some, declares.all]
  · apply expected_denotes (columnsNames_apart (entities_snakes generated))
    intro model member
    exact fields_columns (fields model member)

def awkward : List Schema.Table :=
  [⟨"order", [{ name := "a\"b\nc", declaredType := some "INTEGER", nullable := false, keyOrdinal := 1, autoIncrement := true }]⟩,
    ⟨"Order", [{ name := "\\", declaredType := none, default := some "'\t'" }, { name := "type", declaredType := some "TEXT" }]⟩]

def chosen : Settings where
  typeHints := .ofList [("Order.type", "string")]
  structNames := .ofList [("order", "Purchase")]
  runtime := "crate::support"

theorem source_denotes_awkward : ∃ models text found, entities awkward chosen = .ok models ∧ render awkward chosen = .ok text ∧
    declared text = some found ∧ Denotes found models ∧ (models.map (·.table)).Perm awkward ∧
    (models.map (·.table)).Pairwise fun first second => first.name < second.name := by
  have paths : PathsOnly chosen := by
    refine ⟨by decide, ?_⟩
    have entries : chosen.structNames.entries = [("order", "Purchase")] := rfl
    rw [entries]
    decide
  exact source_denotes (by decide) (by decide) paths rfl

end Source

end Relmap
