import Mathlib.Data.List.Nodup
import Relmap.Code.Model
import Relmap.Proofs.CompiledConditions

/-! What is generated for a schema, as a relation. Each column has a field and each table an entity, and either
all of them get their types or nothing is generated. -/

namespace Relmap

theorem map_eq_ok {ε α β : Type} {first : Except ε α} {f : α → β} {result : β} :
    first.map f = .ok result ↔ ∃ value, first = .ok value ∧ f value = result := by
  cases first <;> simp [Except.map]

theorem mapM_eq_ok {ε α β : Type} {f : α → Except ε β} {inputs : List α} {outputs : List β} :
    inputs.mapM f = .ok outputs ↔ List.Forall₂ (fun input output => f input = .ok output) inputs outputs := by
  induction inputs generalizing outputs with
  | nil => simp [pure, Except.pure, eq_comm]
  | cons input inputs ih =>
    simp only [List.mapM_cons, bind_eq_ok, ih, List.forall₂_cons_left_iff, pure, Except.pure, Except.ok.injEq]
    exact ⟨fun ⟨output, own, outputs', others, same⟩ => ⟨output, outputs', own, others, same.symm⟩,
      fun ⟨output, outputs', own, others, same⟩ => ⟨output, own, outputs', others, same.symm⟩⟩

theorem mapM_total {ε α β : Type} {f : α → Except ε β} {inputs : List α}
    (each : ∀ input ∈ inputs, ∃ output, f input = .ok output) : ∃ outputs, inputs.mapM f = .ok outputs := by
  obtain ⟨outputs, related⟩ := exists_forall₂ each
  exact ⟨outputs, mapM_eq_ok.mpr related⟩

private theorem forall₂_labelled {α β : Type} {label : β → α} {holds : β → Prop} {sources : List α} {results : List β} :
    List.Forall₂ (fun source result => label result = source ∧ holds result) sources results ↔
      results.map label = sources ∧ ∀ result ∈ results, holds result := by
  induction results generalizing sources with
  | nil => simp [eq_comm]
  | cons result results ih =>
    cases sources with
    | nil => simp
    | cons source sources =>
      rw [List.forall₂_cons, ih, List.map_cons, List.cons.injEq, List.forall_mem_cons]
      exact and_and_and_comm

/-- Results that tell what they were made from and what was found for it. -/
theorem mapM_labelled_ok {ε α β γ : Type} {find : α → Except ε β} {make : α → β → γ} (label : γ → α) (content : γ → β)
    (parts : ∀ source found result, make source found = result ↔ label result = source ∧ content result = found)
    {sources : List α} {results : List γ} :
    (sources.mapM fun source => (find source).map (make source)) = .ok results ↔
      results.map label = sources ∧ ∀ result ∈ results, find (label result) = .ok (content result) := by
  have each : ∀ source result, (find source).map (make source) = .ok result ↔
      label result = source ∧ find (label result) = .ok (content result) := by
    intro source result
    simp only [map_eq_ok, parts]
    constructor
    · rintro ⟨found, succeeded, rfl, rfl⟩
      exact ⟨rfl, succeeded⟩
    · rintro ⟨rfl, succeeded⟩
      exact ⟨_, succeeded, rfl, rfl⟩
  rw [mapM_eq_ok, ← forall₂_labelled]
  simp only [each]

/-- Places do not matter to what is made of the items alone. -/
theorem map_placed {α β : Type} (f : α → β) (items : List α) : items.zipIdx.map (fun placed => f placed.1) = items.map f := by
  have kept := congrArg (List.map f) (List.zipIdx_map_fst 0 items)
  rwa [List.map_map] at kept

/-- Where names differ, what is found under a name is what stands under it. -/
theorem lookup_distinct {α : Type} {entries : List (String × α)} (distinct : (entries.map Prod.fst).Nodup) {name : String}
    {value : α} : entries.lookup name = some value ↔ (name, value) ∈ entries := by
  rw [List.lookup_eq_some_iff]
  constructor
  · rintro ⟨before, after, rfl, -⟩
    exact List.mem_append_right before List.mem_cons_self
  · intro member
    obtain ⟨before, after, rfl⟩ := List.append_of_mem member
    refine ⟨before, after, rfl, fun earlier inside => bne_iff_ne.mpr ?_⟩
    rw [List.map_append, List.map_cons] at distinct
    have apart := (List.nodup_append.mp distinct).2.2 earlier.1 (List.mem_map_of_mem inside) name List.mem_cons_self
    exact apart.symm

namespace Code

theorem distinctIdentifiers_length (used names : List String) :
    (distinctIdentifiers used names).length = names.length := by
  induction names generalizing used with
  | nil => rfl
  | cons name names ih => exact congrArg (· + 1) (ih _)

theorem fieldIdentifiers_length (columns : List Schema.Column) :
    (fieldIdentifiers columns).length = columns.length := by
  rw [fieldIdentifiers, List.length_map, distinctIdentifiers_length, List.length_map]

theorem entityNames_length (settings : Settings) (names : Names) (tables : List Schema.Table) :
    (entityNames settings names tables).length = tables.length := by
  induction tables generalizing names with
  | nil => rfl
  | cons table tables ih => exact congrArg (· + 1) (ih _)

theorem fields_ok {settings : Settings} {table : Schema.Table} {models : List FieldModel} :
    fields settings table = .ok models ↔
      models.map (fun model => (model.column, model.identifier)) = table.columns.zip (fieldIdentifiers table.columns) ∧
      ∀ model ∈ models, settings.fieldType table model.column = .ok model.type := by
  refine mapM_labelled_ok (fun model : FieldModel => (model.column, model.identifier)) FieldModel.type ?_
  intro ⟨column, identifier⟩ type ⟨own, source, found⟩
  rw [FieldModel.mk.injEq, Prod.mk.injEq]
  tauto

theorem entities_ok {tables : List Schema.Table} {settings : Settings} {models : List EntityModel} :
    entities tables settings = .ok models ↔
      models.map (fun model => (model.table, model.name)) =
        (sortedTables tables).zip (entityNames settings {} (sortedTables tables)) ∧
      ∀ model ∈ models, fields settings model.table = .ok model.fields := by
  refine mapM_labelled_ok (fun model : EntityModel => (model.table, model.name)) EntityModel.fields ?_
  intro ⟨table, name⟩ fields ⟨source, own, found⟩
  rw [EntityModel.mk.injEq, Prod.mk.injEq]
  tauto

/-- The fields are those of the columns, in order. -/
theorem fields_columns {settings : Settings} {table : Schema.Table} {models : List FieldModel}
    (generated : fields settings table = .ok models) : models.map (·.column) = table.columns := by
  have sources := congrArg (List.map Prod.fst) (fields_ok.mp generated).1
  rw [List.map_map, List.map_fst_zip (fieldIdentifiers_length table.columns).ge] at sources
  exact sources

theorem fields_source {settings : Settings} {table : Schema.Table} {models : List FieldModel}
    (generated : fields settings table = .ok models) {index : Nat} {model : FieldModel} (own : models[index]? = some model) :
    table.columns[index]? = some model.column ∧ settings.fieldType table model.column = .ok model.type := by
  constructor
  · rw [← fields_columns generated, List.getElem?_map, own]
    rfl
  · exact (fields_ok.mp generated).2 model (List.mem_of_getElem? own)

/-- The entities are those of the tables, in the order of their names. -/
theorem entities_tables {tables : List Schema.Table} {settings : Settings} {models : List EntityModel}
    (generated : entities tables settings = .ok models) : models.map (·.table) = sortedTables tables := by
  have sources := congrArg (List.map Prod.fst) (entities_ok.mp generated).1
  rw [List.map_map, List.map_fst_zip (entityNames_length settings {} (sortedTables tables)).ge] at sources
  exact sources

theorem sortedTables_ordered (tables : List Schema.Table) :
    (sortedTables tables).Pairwise fun first second => first.name ≤ second.name := by
  have ordered : (sortedTables tables).Pairwise fun first second => decide (first.name ≤ second.name) = true := by
    apply List.pairwise_mergeSort
    · intro first second third
      simpa using String.le_trans
    · intro first second
      simpa using String.le_total first.name second.name
  simpa using ordered

theorem mem_sortedTables {tables : List Schema.Table} {table : Schema.Table} :
    table ∈ sortedTables tables ↔ table ∈ tables := List.mem_mergeSort

theorem sortedTables_perm (tables : List Schema.Table) : (sortedTables tables).Perm tables := List.mergeSort_perm tables _

theorem sortedTables_increasing {tables : List Schema.Table} (distinct : (tables.map (·.name)).Nodup) :
    (sortedTables tables).Pairwise fun first second => first.name < second.name := by
  have names := (((sortedTables_perm tables).map (·.name)).nodup_iff).mpr distinct
  rw [List.Nodup, List.pairwise_map] at names
  exact (sortedTables_ordered tables).imp₂ (fun _ _ => Std.lt_of_le_of_ne) names

/-- Only the tables' names count for their order. -/
theorem sortedTables_unordered {tables other : List Schema.Table} (distinct : (tables.map (·.name)).Nodup)
    (permuted : other.Perm tables) : sortedTables other = sortedTables tables := by
  have same : (sortedTables other).Perm (sortedTables tables) :=
    ((sortedTables_perm other).trans permuted).trans (sortedTables_perm tables).symm
  refine same.eq_of_pairwise (fun first second member present atMost atLeast => ?_) (sortedTables_ordered other)
    (sortedTables_ordered tables)
  rw [mem_sortedTables, permuted.mem_iff] at member
  rw [mem_sortedTables] at present
  exact List.inj_on_of_nodup_map distinct member present (String.le_antisymm atMost atLeast)

theorem fieldType_unhinted {settings : Settings} {table : Schema.Table} {column : Schema.Column}
    (unhinted : settings.typeHints.get? (Settings.hintKey table column) = none) :
    settings.fieldType table column = .ok (.ofAffinity column.affinity) := by
  rw [Settings.fieldType, Settings.hint?, unhinted]
  rfl

theorem fieldType_hinted {settings : Settings} {table : Schema.Table} {column : Schema.Column} {hint : String}
    {type : FieldType} (hinted : settings.typeHints.get? (Settings.hintKey table column) = some hint)
    (accepted : FieldType.ofHint hint = some type) : settings.fieldType table column = .ok type := by
  simp only [Settings.fieldType, Settings.hint?, hinted, accepted]
  rfl

theorem fields_typed {settings : Settings} {table : Schema.Table}
    (typed : ∀ column ∈ table.columns, ∃ type, settings.fieldType table column = .ok type) :
    ∃ models, fields settings table = .ok models := by
  apply mapM_total
  intro ⟨column, identifier⟩ member
  obtain ⟨type, resolved⟩ := typed column (List.of_mem_zip member).1
  exact ⟨_, map_eq_ok.mpr ⟨type, resolved, rfl⟩⟩

theorem entities_typed {settings : Settings} {tables : List Schema.Table}
    (typed : ∀ table ∈ tables, ∀ column ∈ table.columns, ∃ type, settings.fieldType table column = .ok type) :
    ∃ models, entities tables settings = .ok models := by
  apply mapM_total
  intro ⟨table, name⟩ member
  obtain ⟨models, generated⟩ := fields_typed (typed table (mem_sortedTables.mp (List.of_mem_zip member).1))
  exact ⟨_, map_eq_ok.mpr ⟨models, generated, rfl⟩⟩

end Code

end Relmap
