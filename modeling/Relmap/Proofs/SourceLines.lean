import Relmap.Proofs.EntityNames
import Relmap.Proofs.LiteralText
import Relmap.Text.Line
import Mathlib.Algebra.GroupWithZero.Nat

/-! How many lines the generated source has. Only the tables' names show in it as they are, three times each, and so
only a line feed in one of these begins a line that was not meant. -/

namespace Relmap

namespace Text

private theorem lines_nonempty {text : List Char} (nonempty : text ≠ []) : lines text ≠ [] := by
  intro none
  unfold lines at none
  split at none
  · contradiction
  · contradiction
  · contradiction
  · split at none <;> contradiction

private theorem lines_length_cons {c : Char} {rest : List Char} (noFeed : c ≠ '\n') (nonempty : rest ≠ []) :
    (lines (c :: rest)).length = (lines rest).length := by
  obtain ⟨line, others, split⟩ := List.exists_cons_of_ne_nil (lines_nonempty nonempty)
  rw [lines.eq_def (c :: rest)]
  split
  · contradiction
  next same => exact absurd (List.cons.inj same).1 noFeed
  next same =>
    obtain ⟨-, rfl⟩ := List.cons.inj same
    rfl
  next same =>
    obtain ⟨-, rfl⟩ := List.cons.inj same
    rw [split]
    rfl

/-- A text whose last line is ended has a line for each line feed. -/
theorem lines_length (text : List Char) : (lines (text ++ ['\n'])).length = text.count '\n' + 1 := by
  induction text with
  | nil => rfl
  | cons c rest ih =>
    by_cases feed : c = '\n'
    · subst feed
      rw [List.count_cons_self, ← ih]
      rfl
    · rw [List.cons_append, lines_length_cons feed (by simp), ih, List.count_cons_of_ne feed]

end Text

def lineCount (text : String) : Nat := (Text.lines text.toList).length

def feeds (text : String) : Nat := text.toList.count '\n'

theorem feeds_append (first second : String) : feeds (first ++ second) = feeds first + feeds second := by
  rw [feeds, String.toList_append, List.count_append, feeds, feeds]

theorem feeds_eq_zero {text : String} : feeds text = 0 ↔ '\n' ∉ text.toList := List.count_eq_zero

theorem unbroken_of {text : String} (holds : Char → Prop) (other : ¬ holds '\n') (each : ∀ c ∈ text.toList, holds c) :
    feeds text = 0 := by
  rw [feeds_eq_zero]
  intro broken
  exact other (each '\n' broken)

theorem append_unbroken {first second : String} : feeds (first ++ second) = 0 ↔ feeds first = 0 ∧ feeds second = 0 := by
  rw [feeds_append, Nat.add_eq_zero_iff]

/-- For texts that are spelled out, whose characters would else be read off their bytes. -/
theorem spelled_unbroken {spelled : List Char} (unbroken : spelled.all (· != '\n') = true) :
    feeds (String.ofList spelled) = 0 := by
  apply unbroken_of (fun c => (c != '\n') = true) (by decide)
  rw [String.toList_ofList]
  exact List.all_eq_true.mp unbroken

theorem literal_unbroken (text : String) : feeds (Text.literal text) = 0 := by
  rw [feeds_eq_zero, Text.literal, String.toList_ofList]
  have unbroken := Text.escape_unbroken text.toList
  simp [unbroken]

theorem number_unbroken (n : Nat) : feeds (toString n) = 0 := by
  apply unbroken_of (·.isDigit = true) (by decide)
  rw [Nat.toString_eq_ofList_toDigits, String.toList_ofList]
  exact Code.digits_digit

namespace Code

open Identifier

/-- Lines none of which goes on behind a line feed. -/
def Whole (lines : List String) : Prop := ∀ line ∈ lines, feeds line = 0

theorem whole_nil : Whole [] := fun _ member => absurd member List.not_mem_nil

theorem whole_cons {line : String} {lines : List String} : Whole (line :: lines) ↔ feeds line = 0 ∧ Whole lines :=
  List.forall_mem_cons

theorem separated_unbroken {separator : String} {texts : List String} (apart : feeds separator = 0)
    (whole : Whole texts) : feeds (separator.intercalate texts) = 0 := by
  induction texts with
  | nil => rfl
  | cons text texts ih =>
    obtain ⟨own, others⟩ := whole_cons.mp whole
    cases texts with
    | nil => rwa [String.intercalate_singleton]
    | cons next texts =>
      rw [String.intercalate_cons_cons, append_unbroken, append_unbroken]
      exact ⟨⟨own, apart⟩, ih others⟩

theorem whole_append {first second : List String} : Whole (first ++ second) ↔ Whole first ∧ Whole second :=
  List.forall_mem_append

theorem whole_indented {lines : List String} (whole : Whole lines) : Whole (indented lines) := by
  intro line member
  obtain ⟨bare, inside, rfl⟩ := List.mem_map.mp member
  exact append_unbroken.mpr ⟨spelled_unbroken rfl, whole bare inside⟩

theorem whole_block {opening closing : String} {lines : List String} (opened : feeds opening = 0) (whole : Whole lines)
    (closed : feeds closing = 0) : Whole (block opening lines closing) := by
  refine whole_append.mpr ⟨whole_cons.mpr ⟨?_, whole_indented whole⟩, whole_cons.mpr ⟨?_, whole_nil⟩⟩
  · exact append_unbroken.mpr ⟨opened, spelled_unbroken rfl⟩
  · exact append_unbroken.mpr ⟨spelled_unbroken rfl, closed⟩

theorem whole_array {name type : String} {elements : List String} (named : feeds name = 0) (typed : feeds type = 0)
    (whole : Whole elements) : Whole (array name type elements) := by
  refine whole_append.mpr ⟨whole_cons.mpr ⟨?_, whole_indented ?_⟩, whole_cons.mpr ⟨spelled_unbroken rfl, whole_nil⟩⟩
  · simp only [append_unbroken, named, typed, number_unbroken, and_true]
    and_intros <;> exact spelled_unbroken rfl
  · intro line member
    obtain ⟨element, inside, rfl⟩ := List.mem_map.mp member
    exact append_unbroken.mpr ⟨whole element inside, spelled_unbroken rfl⟩

/-- How many lines come of texts that are written each on a line of its own. -/
def height (lines : List String) : Nat := (lines.map fun line => feeds line + 1).sum

theorem height_cons (line : String) (lines : List String) : height (line :: lines) = feeds line + 1 + height lines := by
  rw [height, List.map_cons, List.sum_cons, height]

theorem height_append (first second : List String) : height (first ++ second) = height first + height second := by
  rw [height, List.map_append, List.sum_append, height, height]

theorem height_flatMap {α : Type} (lines : α → List String) (items : List α) :
    height (items.flatMap lines) = (items.map fun item => height (lines item)).sum := by
  induction items with
  | nil => rfl
  | cons item items ih => rw [List.flatMap_cons, height_append, ih, List.map_cons, List.sum_cons]

theorem height_whole {lines : List String} (whole : Whole lines) : height lines = lines.length := by
  induction lines with
  | nil => rfl
  | cons line lines ih =>
    obtain ⟨own, others⟩ := whole_cons.mp whole
    rw [height_cons, own, ih others, List.length_cons, Nat.zero_add, Nat.add_comm]

theorem height_documented {line name : String} {lines : List String} (named : feeds line = feeds name) (whole : Whole lines) :
    height (line :: lines) = feeds name + (lines.length + 1) := by
  rw [height_cons, named, height_whole whole]
  omega

private theorem feeds_join (lines : List String) : feeds (String.join (lines.map (· ++ "\n"))) = height lines := by
  induction lines with
  | nil => rfl
  | cons line lines ih =>
    rw [List.map_cons, String.join_cons, feeds_append, feeds_append, ih, height_cons, show feeds "\n" = 1 from rfl]

private theorem lineCount_join {lines : List String} (ended : lines ≠ []) :
    lineCount (String.join (lines.map (· ++ "\n"))) = height lines := by
  obtain ⟨front, last, rfl⟩ : ∃ front last, lines = front ++ [last] :=
    ⟨_, _, (List.dropLast_append_getLast ended).symm⟩
  obtain ⟨text, same⟩ : ∃ text, (String.join ((front ++ [last]).map (· ++ "\n"))).toList = text ++ ['\n'] := by
    refine ⟨(String.join (front.map (· ++ "\n")) ++ last).toList, ?_⟩
    rw [List.map_append, String.join_append, List.map_singleton, String.join_cons, String.join_nil, String.append_empty,
      ← String.append_assoc, String.toList_append]
    rfl
  rw [← feeds_join, lineCount, feeds, same, Text.lines_length, List.count_append]
  rfl

private theorem numbered_unbroken {base separator : String} (unbroken : feeds base = 0) (apart : feeds separator = 0)
    (n : Nat) :
    feeds (numbered base separator n) = 0 := by
  unfold numbered
  split
  · exact unbroken
  · rw [append_unbroken, append_unbroken]
    exact ⟨⟨unbroken, apart⟩, number_unbroken _⟩

theorem columnsName_unbroken (entity : EntityModel) : feeds (columnsName entity) = 0 := by
  rw [columnsName, append_unbroken]
  refine ⟨?_, spelled_unbroken rfl⟩
  rw [feeds_eq_zero, String.toList_ofList]
  intro broken
  obtain ⟨c, member, same⟩ := List.mem_map.mp broken
  have plain := snake_isPlain entity c member
  have lowered := plain_upper plain
  rw [same] at lowered
  rw [← lowered] at plain
  exact absurd plain (by decide)

private theorem affinity_unbroken (affinity : Affinity) : feeds affinity.constructor = 0 := by
  cases affinity <;> exact spelled_unbroken rfl

theorem boolean_unbroken (flag : Bool) : feeds (boolean flag) = 0 := by
  cases flag <;> exact spelled_unbroken rfl

private theorem type_unbroken (type : FieldType) (nullable : Bool) : feeds (type.spelled nullable) = 0 := by
  have own : feeds type.spelling = 0 := by
    cases type <;> exact spelled_unbroken rfl
  unfold FieldType.spelled
  split
  · exact append_unbroken.mpr ⟨append_unbroken.mpr ⟨spelled_unbroken rfl, own⟩, spelled_unbroken rfl⟩
  · exact own

private theorem columnElement_unbroken (column : Schema.Column) : feeds (columnElement column) = 0 := by
  have affinity : feeds ("Affinity::" ++ column.affinity.constructor) = 0 :=
    append_unbroken.mpr ⟨spelled_unbroken rfl, affinity_unbroken _⟩
  refine append_unbroken.mpr ⟨append_unbroken.mpr ⟨spelled_unbroken rfl, ?_⟩, spelled_unbroken rfl⟩
  apply separated_unbroken (spelled_unbroken rfl)
  simp only [whole_cons]
  refine ⟨literal_unbroken _, affinity, boolean_unbroken _, ?_, number_unbroken _, boolean_unbroken _, whole_nil⟩
  cases column.default with
  | none => exact spelled_unbroken rfl
  | some expression =>
    exact append_unbroken.mpr ⟨append_unbroken.mpr ⟨spelled_unbroken rfl, literal_unbroken _⟩, spelled_unbroken rfl⟩

private theorem tableElement_unbroken (entity : EntityModel) : feeds (tableElement entity) = 0 := by
  have reference : feeds ("&" ++ columnsName entity) = 0 :=
    append_unbroken.mpr ⟨spelled_unbroken rfl, columnsName_unbroken entity⟩
  refine append_unbroken.mpr ⟨append_unbroken.mpr ⟨spelled_unbroken rfl, ?_⟩, spelled_unbroken rfl⟩
  apply separated_unbroken (spelled_unbroken rfl)
  simp only [whole_cons]
  exact ⟨literal_unbroken _, literal_unbroken _, reference, whole_nil⟩

private theorem readerElement_unbroken {field : FieldModel} (identifier : feeds field.identifier = 0) :
    feeds (readerElement field) = 0 := by
  have getter : feeds (if field.column.nullable then "optional" else "required") = 0 := by
    split <;> exact spelled_unbroken rfl
  simp only [readerElement, append_unbroken, identifier, getter, literal_unbroken, and_true, true_and]
  and_intros <;> exact spelled_unbroken rfl

private theorem height_columnLines (entity : EntityModel) :
    height (columnLines entity) = entity.table.columns.length + 3 := by
  have whole : Whole (columnLines entity) := by
    refine whole_cons.mpr ⟨rfl, whole_array (columnsName_unbroken entity) (spelled_unbroken rfl) ?_⟩
    intro line member
    obtain ⟨column, -, rfl⟩ := List.mem_map.mp member
    exact columnElement_unbroken column
  rw [height_whole whole]
  simp [columnLines, array, indented]

private theorem height_tableLines (entities : List EntityModel) : height (tableLines entities) = entities.length + 3 := by
  have whole : Whole (tableLines entities) := by
    refine whole_cons.mpr ⟨rfl, whole_array (spelled_unbroken rfl) (spelled_unbroken rfl) ?_⟩
    intro line member
    obtain ⟨entity, -, rfl⟩ := List.mem_map.mp member
    exact tableElement_unbroken entity
  rw [height_whole whole]
  simp [tableLines, array, indented]

theorem feeds_between {before after : String} (name : String) (first : feeds before = 0) (last : feeds after = 0) :
    feeds (before ++ name ++ after) = feeds name := by
  rw [feeds_append, feeds_append, first, last, Nat.zero_add, Nat.add_zero]

section

variable {entity : EntityModel} (name : feeds entity.name = 0)
  (identifiers : ∀ field ∈ entity.fields, feeds field.identifier = 0)

private theorem height_accessorLines (index : Nat) (entity : EntityModel) :
    height (accessorLines index entity) = feeds entity.table.name + 4 := by
  have snake : feeds entity.snake = 0 := unbroken_of (isPlain · = true) (by decide) (snake_isPlain entity)
  refine height_documented (feeds_between _ (spelled_unbroken rfl) (spelled_unbroken rfl)) (whole_block ?_ ?_ rfl)
  · simp only [append_unbroken, snake, and_true]
    and_intros <;> exact spelled_unbroken rfl
  · refine whole_cons.mpr ⟨?_, whole_nil⟩
    simp only [append_unbroken, number_unbroken, and_true]
    and_intros <;> exact spelled_unbroken rfl

include name identifiers

private theorem height_structLines :
    height (structLines entity) = feeds entity.table.name + (entity.fields.length + 4) := by
  have fields : Whole (entity.fields.map fun field =>
      "pub " ++ field.identifier ++ ": " ++ field.type.spelled field.column.nullable ++ ",") := by
    intro line member
    obtain ⟨field, inside, rfl⟩ := List.mem_map.mp member
    simp only [append_unbroken, identifiers field inside, type_unbroken, and_true]
    and_intros <;> exact spelled_unbroken rfl
  have opening : feeds ("pub struct " ++ entity.name) = 0 := append_unbroken.mpr ⟨spelled_unbroken rfl, name⟩
  refine (height_documented (feeds_between _ (spelled_unbroken rfl) (spelled_unbroken rfl))
    (whole_cons.mpr ⟨spelled_unbroken rfl, whole_block opening fields rfl⟩)).trans ?_
  simp [block, indented]

private theorem height_mapperLines :
    height (mapperLines entity) = feeds entity.table.name + (entity.fields.length + 10) := by
  have mapper : feeds (mapperName entity.name) = 0 := append_unbroken.mpr ⟨name, spelled_unbroken rfl⟩
  have readers : Whole (entity.fields.map readerElement) := by
    intro line member
    obtain ⟨field, inside, rfl⟩ := List.mem_map.mp member
    exact readerElement_unbroken (identifiers field inside)
  have comment : feeds ("/// Maps rows of table \x60" ++ entity.table.name ++ "\x60 into [\x60" ++ entity.name ++ "\x60].") =
      feeds entity.table.name := by
    have behind : feeds "\x60 into [\x60" = 0 := spelled_unbroken rfl
    have last : feeds "\x60]." = 0 := spelled_unbroken rfl
    rw [feeds_append, feeds_append, feeds_between _ (spelled_unbroken rfl) behind, name, last, Nat.add_zero]
  have declared : feeds ("pub struct " ++ mapperName entity.name ++ ";") = 0 :=
    append_unbroken.mpr ⟨append_unbroken.mpr ⟨spelled_unbroken rfl, mapper⟩, spelled_unbroken rfl⟩
  have outer : feeds ("impl RowMapper<" ++ entity.name ++ "> for " ++ mapperName entity.name) = 0 := by
    simp only [append_unbroken, name, mapper, and_true]
    and_intros <;> exact spelled_unbroken rfl
  have middle : feeds ("fn map(&self, row: &DataRow) -> Result<" ++ entity.name ++ ", MapError>") = 0 := by
    simp only [append_unbroken, name, and_true]
    and_intros <;> exact spelled_unbroken rfl
  have inner : feeds ("Ok(" ++ entity.name) = 0 := append_unbroken.mpr ⟨spelled_unbroken rfl, name⟩
  refine (height_documented comment (whole_cons.mpr ⟨spelled_unbroken rfl, whole_cons.mpr ⟨declared,
    whole_cons.mpr ⟨rfl, whole_block outer (whole_block middle (whole_block inner readers ?_) rfl) rfl⟩⟩⟩)).trans ?_
  · exact spelled_unbroken rfl
  simp [block, indented]

omit identifiers in
private theorem height_entityImplLines : height (entityImplLines entity) = 7 := by
  have opening : feeds ("impl Entity for " ++ entity.name ++ " \x7b") = 0 :=
    append_unbroken.mpr ⟨append_unbroken.mpr ⟨spelled_unbroken rfl, name⟩, spelled_unbroken rfl⟩
  have constant : feeds ("    const TYPE_ID: &'static str = " ++ Text.literal entity.table.typeId ++ ";") = 0 :=
    append_unbroken.mpr ⟨append_unbroken.mpr ⟨spelled_unbroken rfl, literal_unbroken _⟩, spelled_unbroken rfl⟩
  have reading : feeds (mapperName entity.name ++ ".map(row)") = 0 :=
    append_unbroken.mpr ⟨append_unbroken.mpr ⟨name, spelled_unbroken rfl⟩, spelled_unbroken rfl⟩
  have whole : Whole (entityImplLines entity) := by
    refine whole_append.mpr ⟨whole_append.mpr ⟨?_, whole_indented (whole_block (spelled_unbroken rfl) ?_ rfl)⟩, ?_⟩
    · exact whole_cons.mpr ⟨opening, whole_cons.mpr ⟨constant, whole_cons.mpr ⟨rfl, whole_nil⟩⟩⟩
    · exact whole_cons.mpr ⟨reading, whole_nil⟩
    · exact whole_cons.mpr ⟨spelled_unbroken rfl, whole_nil⟩
  rw [height_whole whole]
  rfl

private theorem height_entityLines (index : Nat) :
    height (entityLines index entity) = 2 * entity.fields.length + 29 + 3 * feeds entity.table.name := by
  have blank : height [""] = 1 := rfl
  simp only [entityLines, height_append, blank, height_accessorLines, height_structLines name identifiers,
    height_mapperLines name identifiers, height_entityImplLines name]
  omega

end

private theorem height_header {runtime : String} (unbroken : feeds runtime = 0) : height (header runtime) = 6 := by
  have whole : Whole (header runtime) := by
    simp only [header, whole_cons, append_unbroken, unbroken, whole_nil, and_true]
    and_intros <;> exact spelled_unbroken rfl
  rw [height_whole whole]
  rfl

private theorem height_registryLines : height registryLines = 19 := by
  have whole : Whole registryLines := by
    simp only [registryLines, block, indented, whole_append, whole_cons, whole_nil, List.map_cons, List.map_nil,
      List.map_append, append_unbroken, and_true]
    and_intros <;> exact spelled_unbroken rfl
  rw [height_whole whole]
  rfl

structure Unbroken (settings : Settings) : Prop where
  runtime : feeds settings.runtime = 0
  names : ∀ entry ∈ settings.structNames.entries, feeds entry.2 = 0

section

variable {settings : Settings} {tables : List Schema.Table} {models : List EntityModel}
  (generated : entities tables settings = .ok models)
include generated

private theorem entityNames_unbroken (unbroken : Unbroken settings) : ∀ model ∈ models, feeds model.name = 0 := by
  intro model member
  obtain ⟨n, own⟩ := entities_numbered generated model member
  rw [own]
  refine numbered_unbroken ?_ rfl n
  rcases baseName_cases settings model.table with ⟨entry, inside, same⟩ | isType
  · exact same ▸ unbroken.names entry inside
  · exact unbroken_of (·.isAlphanum = true) (by decide) isType.2

private theorem identifiers_unbroken : ∀ model ∈ models, ∀ field ∈ model.fields, feeds field.identifier = 0 := by
  intro model member field inside
  have letters := (fields_plain ((entities_ok.mp generated).2 model member) field inside).2
  exact unbroken_of (fun c => isPlain c = true ∨ c = '#') (by decide) letters

end

private theorem height_entities {entities : List EntityModel} (names : ∀ entity ∈ entities, feeds entity.name = 0)
    (identifiers : ∀ entity ∈ entities, ∀ field ∈ entity.fields, feeds field.identifier = 0) :
    height (entities.zipIdx.flatMap fun (entity, index) => entityLines index entity) =
      (entities.map fun entity => 2 * entity.fields.length + 29 + 3 * feeds entity.table.name).sum := by
  have each : ∀ placed ∈ entities.zipIdx, height (entityLines placed.2 placed.1) =
      2 * placed.1.fields.length + 29 + 3 * feeds placed.1.table.name := by
    intro placed member
    have inside : placed.1 ∈ entities := List.fst_mem_of_mem_zipIdx member
    exact height_entityLines (names placed.1 inside) (identifiers placed.1 inside) placed.2
  have places := map_placed (fun entity : EntityModel => 2 * entity.fields.length + 29 + 3 * feeds entity.table.name) entities
  rw [height_flatMap, List.map_congr_left each, places]

/-- How many lines there are for a schema besides those that table names break off. -/
def frameHeight (tables : List Schema.Table) : Nat := (tables.map fun table => 3 * table.columns.length + 33).sum + 28

def nameFeeds (tables : List Schema.Table) : Nat := (tables.map (feeds ·.name)).sum

private theorem nameFeeds_sorted (tables : List Schema.Table) : nameFeeds (sortedTables tables) = nameFeeds tables :=
  ((List.mergeSort_perm tables _).map fun table : Schema.Table => feeds table.name).sum_nat

private theorem height_tables {entities : List EntityModel}
    (columns : ∀ entity ∈ entities, entity.fields.length = entity.table.columns.length) :
    (entities.map fun entity => entity.table.columns.length + 3).sum + entities.length +
      (entities.map fun entity => 2 * entity.fields.length + 29 + 3 * feeds entity.table.name).sum + 28 =
    frameHeight (entities.map (·.table)) + 3 * nameFeeds (entities.map (·.table)) := by
  induction entities with
  | nil => rfl
  | cons entity entities ih =>
    obtain ⟨own, others⟩ := List.forall_mem_cons.mp columns
    have rest := ih others
    simp only [frameHeight, nameFeeds, List.map_cons, List.sum_cons, List.length_cons] at rest ⊢
    omega

theorem render_lineCount {tables : List Schema.Table} {settings : Settings} {text : String} (unbroken : Unbroken settings)
    (rendered : render tables settings = .ok text) :
    lineCount text = frameHeight (sortedTables tables) + 3 * nameFeeds tables := by
  obtain ⟨models, generated, rfl⟩ := map_eq_ok.mp rendered
  have columns : ∀ model ∈ models, model.fields.length = model.table.columns.length := by
    intro model member
    rw [← fields_columns ((entities_ok.mp generated).2 model member), List.length_map]
  have framed := height_tables columns
  rw [entities_tables generated, nameFeeds_sorted] at framed
  rw [lineCount_join (by simp [lines, header]), ← framed, lines]
  simp only [height_append, height_flatMap, height_columnLines, height_tableLines,
    height_entities (entityNames_unbroken generated unbroken) (identifiers_unbroken generated)]
  rw [height_header unbroken.runtime, height_registryLines]
  omega

/-- Tables that match in the order of their names have as many columns as each other. -/
def Alike (first second : List Schema.Table) : Prop :=
  (sortedTables first).map (·.columns.length) = (sortedTables second).map (·.columns.length)

theorem Alike.frameHeight {first second : List Schema.Table} (alike : Alike first second) :
    frameHeight (sortedTables first) = frameHeight (sortedTables second) := by
  have sums := congrArg (fun counts => (counts.map fun count => 3 * count + 33).sum + 28) alike
  simp only [List.map_map] at sums
  exact sums

/-- Between schemas of one shape, each line feed in a table's name counts for three lines, once for every comment that
names the table, and nothing else of the schema counts. -/
theorem lineCount_alike {first second : List Schema.Table} {settings : Settings} {text other : String}
    (unbroken : Unbroken settings) (alike : Alike first second) (rendered : render first settings = .ok text)
    (otherRendered : render second settings = .ok other) :
    lineCount text + 3 * nameFeeds second = lineCount other + 3 * nameFeeds first ∧
    (lineCount text = lineCount other ↔ nameFeeds first = nameFeeds second) := by
  have count := render_lineCount unbroken rendered
  have otherCount := render_lineCount unbroken otherRendered
  have frame := alike.frameHeight
  omega

theorem defaults_unbroken : Unbroken {} := ⟨rfl, fun _ member => absurd member List.not_mem_nil⟩

/-- A column that SQLite takes the name and the default of, though both are several lines long. -/
def brokenColumn : Schema.Column := { Schema.Column.declared "a\nb" none with default := some "'\r\n'" }

theorem render_defaults (tables : List Schema.Table) : ∃ text, render tables {} = .ok text := by
  obtain ⟨models, generated⟩ : ∃ models, entities tables {} = .ok models :=
    entities_typed fun _ _ _ _ => ⟨_, fieldType_unhinted rfl⟩
  exact ⟨_, map_eq_ok.mpr ⟨models, generated, rfl⟩⟩

theorem lineCount_alike_column :
    ∃ text other, render [⟨"t", [.declared "ab" none]⟩] {} = .ok text ∧ render [⟨"t", [brokenColumn]⟩] {} = .ok other ∧
      lineCount text = lineCount other := by
  obtain ⟨text, rendered⟩ := render_defaults [⟨"t", [.declared "ab" none]⟩]
  obtain ⟨other, otherRendered⟩ := render_defaults [⟨"t", [brokenColumn]⟩]
  have alike : Alike [⟨"t", [.declared "ab" none]⟩] [⟨"t", [brokenColumn]⟩] := by simp [Alike, sortedTables]
  exact ⟨text, other, rendered, otherRendered, (lineCount_alike defaults_unbroken alike rendered otherRendered).2.mpr rfl⟩

/-- A line feed in a table's name begins lines outside the comments. -/
theorem tableName_breaksOut :
    Unbroken {} ∧ Alike [⟨"ab", []⟩] [⟨"a\nb", []⟩] ∧
    ∃ text other, render [⟨"ab", []⟩] {} = .ok text ∧ render [⟨"a\nb", []⟩] {} = .ok other ∧ lineCount text ≠ lineCount other := by
  obtain ⟨text, rendered⟩ := render_defaults [⟨"ab", []⟩]
  obtain ⟨other, otherRendered⟩ := render_defaults [⟨"a\nb", []⟩]
  have alike : Alike [⟨"ab", []⟩] [⟨"a\nb", []⟩] := by simp [Alike, sortedTables]
  refine ⟨defaults_unbroken, alike, text, other, rendered, otherRendered, ?_⟩
  have count := render_lineCount defaults_unbroken rendered
  have otherCount := render_lineCount defaults_unbroken otherRendered
  have plain : nameFeeds [⟨"ab", []⟩] = 0 := rfl
  have broken : nameFeeds [⟨"a\nb", []⟩] = 1 := rfl
  rw [count, otherCount, alike.frameHeight, plain, broken]
  omega

end Code

end Relmap
