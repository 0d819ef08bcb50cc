import Relmap.Proofs.EntityNames

/-! The order of what is generated. It comes from the names of the tables alone: whichever way the tables are listed, each
section of the text has one piece for each table, in increasing order of their names, and the numbers of entities are given in
that order. -/

namespace Relmap.Code

open Identifier

namespace Names

def after (names : Names) (given : List String) : Names := given.foldl claim names

theorem mem_after (taken : Names → List String) (uses : String → List String)
    (claimed : ∀ names name, taken (claim names name) = uses name ++ taken names) {names : Names} {given : List String}
    {name : String} : name ∈ taken (names.after given) ↔ name ∈ taken names ∨ ∃ earlier ∈ given, name ∈ uses earlier := by
  induction given generalizing names with
  | nil => simp [after]
  | cons first rest ih =>
    change name ∈ taken ((names.claim first).after rest) ↔ _
    rw [ih, claimed, List.mem_append, List.exists_mem_cons_iff, or_assoc, or_left_comm]

theorem types_after {names : Names} {given : List String} {name : String} :
    name ∈ (names.after given).types ↔ name ∈ names.types ∨ ∃ earlier ∈ given, name ∈ declared earlier :=
  mem_after types declared fun _ _ => rfl

private theorem snakes_after {names : Names} {given : List String} {name : String} :
    name ∈ (names.after given).snakes ↔ name ∈ names.snakes ∨ ∃ earlier ∈ given, name ∈ [snakeCase earlier] :=
  mem_after snakes (fun name => [snakeCase name]) fun _ _ => rfl

end Names

/-- A name goes to the tables before, then to the others with what is left. -/
theorem entityNames_append (settings : Settings) (names : Names) (before after : List Schema.Table) :
    entityNames settings names (before ++ after) =
      entityNames settings names before ++ entityNames settings (names.after (entityNames settings names before)) after := by
  induction before generalizing names with
  | nil => rfl
  | cons table before ih => exact congrArg (_ :: ·) (ih _)

/-- An entity cannot have a name of which something is referred to already or declared for an entity before. -/
def Taken (before : List EntityModel) (candidate : String) : Prop :=
  (∃ name ∈ declared candidate, name ∈ reservedTypes ∨ ∃ earlier ∈ before, name ∈ declared earlier.name) ∨
    ∃ earlier ∈ before, snakeCase candidate = earlier.snake

theorem takes_taken {before : List EntityModel} {candidate : String} :
    (Names.after {} (before.map (·.name))).takes candidate = true ↔ Taken before candidate := by
  rw [Names.takes_iff, Names.types_after, Names.types_after, Names.snakes_after, Taken]
  simp only [declared, List.mem_cons, List.not_mem_nil, or_false, exists_eq_or_imp, exists_eq_left, List.mem_map,
    exists_exists_and_eq_and, EntityModel.snake, false_or, or_assoc]

/-- The name of an entity is the first that is free behind the entities before. -/
def FirstName (settings : Settings) (before : List EntityModel) (model : EntityModel) : Prop :=
  ∃ n, model.name = numbered (baseName settings model.table) "" n ∧ ¬ Taken before model.name ∧
    ∀ fewer < n, Taken before (numbered (baseName settings model.table) "" fewer)

private theorem entities_named {tables : List Schema.Table} {settings : Settings} {before after : List EntityModel}
    {model : EntityModel}
    (generated : entities tables settings = .ok (before ++ model :: after)) : FirstName settings before model := by
  have names := entities_names generated
  rw [← entities_tables generated, List.map_append, List.map_append, List.map_cons, List.map_cons, entityNames_append] at names
  have lengths : (before.map (·.name)).length = (entityNames settings {} (before.map (·.table))).length := by
    rw [entityNames_length, List.length_map, List.length_map]
  obtain ⟨earlier, own⟩ := List.append_inj names lengths
  rw [← earlier, entityNames, List.cons.injEq] at own
  obtain ⟨n, found, free, passed⟩ := (Names.after {} (before.map (·.name))).fresh_firstFree (baseName settings model.table)
  rw [← own.1] at found
  refine ⟨n, found, ?_, fun fewer less => takes_taken.mp (passed fewer less)⟩
  rw [← takes_taken, found, free]
  exact Bool.false_ne_true

/-- Pieces of a text, none of which begins before the one before it ends. -/
inductive InOrder : List String → String → Prop where
  | done (rest : String) : InOrder [] rest
  | next {pieces : List String} {behind : String} (before piece : String) (others : InOrder pieces behind) :
    InOrder (piece :: pieces) (before ++ piece ++ behind)

theorem InOrder.after {pieces : List String} {text : String} (inOrder : InOrder pieces text) (before : String) :
    InOrder pieces (before ++ text) := by
  cases inOrder with
  | done => exact .done _
  | next between piece others =>
    rw [← String.append_assoc, ← String.append_assoc]
    exact .next (before ++ between) piece others

theorem InOrder.append {first second : List String} {front behind : String} (inFront : InOrder first front)
    (inBehind : InOrder second behind) : InOrder (first ++ second) (front ++ behind) := by
  induction inFront with
  | done rest => exact inBehind.after rest
  | next before piece others ih =>
    rw [String.append_assoc, List.cons_append]
    exact .next before piece ih

def printed (lines : List String) : String := String.join (lines.map (· ++ "\n"))

theorem printed_append (first second : List String) : printed (first ++ second) = printed first ++ printed second := by
  rw [printed, List.map_append, String.join_append]
  rfl

theorem InOrder.lines {pieces lines : List String} (inOrder : InOrder pieces (printed lines)) (before after : List String) :
    InOrder pieces (printed (before ++ lines ++ after)) := by
  rw [printed_append, printed_append, ← List.append_nil pieces]
  exact (inOrder.after _).append (.done _)

theorem inOrder_flatMap (items : List α) (lines : α → List String) :
    InOrder (items.map fun item => printed (lines item)) (printed (items.flatMap lines)) := by
  induction items with
  | nil => exact .done _
  | cons item items ih =>
    rw [List.flatMap_cons, printed_append, List.map_cons]
    exact .next "" _ ih

/-- The pieces of the generated text that tell of tables: the metadata of all columns, that of the tables themselves, and what is
declared for each. -/
def sections (models : List EntityModel) : List String :=
  (models.map fun model => printed (columnLines model)) ++
    (models.map fun model => printed (indented [tableElement model ++ ","])) ++
    models.zipIdx.map fun (model, index) => printed (entityLines index model)

private theorem lines_sections (runtime : String) (models : List EntityModel) :
    InOrder (sections models) (printed (lines runtime models)) := by
  have elements : indented ((models.map tableElement).map (· ++ ",")) =
      models.flatMap fun model => indented [tableElement model ++ ","] := by
    rw [indented, List.map_map, List.map_map, List.map_eq_flatMap]
    rfl
  have metadata : InOrder (models.map fun model => printed (indented [tableElement model ++ ","])) (printed (tableLines models)) := by
    have inside := inOrder_flatMap models fun model => indented [tableElement model ++ ","]
    rw [← elements] at inside
    exact inside.lines ["", _] ["];"]
  have columns := (inOrder_flatMap models columnLines).lines (header runtime) []
  have items := (inOrder_flatMap models.zipIdx fun (model, index) => entityLines index model).lines [] registryLines
  rw [List.append_nil] at columns
  rw [lines, List.append_assoc, printed_append, printed_append]
  exact (columns.append metadata).append items

/-- What is generated for tables, in the order of their names: an entity for each with the first name that is left by those
before, and the text that has all of them in this order. -/
structure Arranged (settings : Settings) (tables : List Schema.Table) (models : List EntityModel) (text : String) : Prop where
  each : (models.map (·.table)).Perm tables
  increasing : models.Pairwise fun first later => first.table.name < later.table.name
  named : ∀ before model after, models = before ++ model :: after → FirstName settings before model
  written : InOrder (sections models) text

private theorem render_arranged {tables : List Schema.Table} {settings : Settings} {text : String}
    (distinct : (tables.map (·.name)).Nodup) (rendered : render tables settings = .ok text) :
    ∃ models, entities tables settings = .ok models ∧ Arranged settings tables models text := by
  obtain ⟨models, generated, rfl⟩ := map_eq_ok.mp rendered
  refine ⟨models, generated, ?each, ?increasing, ?named, lines_sections settings.runtime models⟩
  case each =>
    rw [entities_tables generated]
    exact sortedTables_perm tables
  case increasing =>
    have increasing := sortedTables_increasing distinct
    rwa [← entities_tables generated, List.pairwise_map] at increasing
  case named =>
    rintro before model after rfl
    exact entities_named generated

/-- Tables that are listed in any other order give the same text or the same error, and in a text they are arranged by name. -/
theorem render_unordered {tables other : List Schema.Table} {settings : Settings} (distinct : (tables.map (·.name)).Nodup)
    (permuted : other.Perm tables) :
    render other settings = render tables settings ∧
    ∀ text, render tables settings = .ok text →
      ∃ models, entities tables settings = .ok models ∧ Arranged settings tables models text := by
  refine ⟨?_, fun text rendered => render_arranged distinct rendered⟩
  rw [render, render, entities, entities, sortedTables_unordered distinct permuted]

def zooTables : List Schema.Table :=
  [⟨"zoo", [{ name := "name", declaredType := some "TEXT" }]⟩, ⟨"apple", []⟩,
    ⟨"Apple", [{ name := "id", declaredType := some "INTEGER", keyOrdinal := 1 }]⟩]

theorem render_unordered_reversed : (zooTables.map (·.name)).Nodup ∧ zooTables.reverse.Perm zooTables ∧
    render zooTables.reverse {} = render zooTables {} ∧ ∃ models text, render zooTables {} = .ok text ∧
      Arranged {} zooTables models text ∧ models.map (·.name) = ["Apple", "Apple2", "Zoo"] := by
  have distinct : (zooTables.map (·.name)).Nodup := by decide
  have permuted : zooTables.reverse.Perm zooTables := List.reverse_perm zooTables
  obtain ⟨same, arranged⟩ := @render_unordered zooTables zooTables.reverse {} distinct permuted
  obtain ⟨models, generated⟩ : ∃ models, entities zooTables {} = .ok models :=
    entities_typed fun _ _ _ _ => ⟨_, fieldType_unhinted rfl⟩
  have rendered : render zooTables {} = .ok (printed (lines "rowcast_core" models)) := map_eq_ok.mpr ⟨models, generated, rfl⟩
  obtain ⟨others, generated', arranged⟩ := arranged _ rendered
  obtain rfl : models = others := Except.ok.inj (generated.symm.trans generated')
  have sorted : sortedTables zooTables = zooTables.reverse := by
    rw [← sortedTables_unordered distinct permuted]
    exact List.mergeSort_of_pairwise (by decide)
  refine ⟨distinct, permuted, same, models, _, rendered, arranged, ?_⟩
  rw [entities_names generated, sorted]
  decide +kernel

end Relmap.Code
