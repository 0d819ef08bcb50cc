import Relmap.Proofs.GeneratedModels
import Relmap.Code.Source

/-! Hints that name no type. Settings are checked key by key and code is generated column by column, and each stops at the first
such hint on its own way: the smallest key of all, or the first column by the name of its table and then as it is declared. -/

namespace Relmap

variable {ε α β : Type}

def failure? : Except ε α → Option ε
  | .ok _ => none
  | .error error => some error

theorem failure?_some {result : Except ε α} {error : ε} : failure? result = some error ↔ result = .error error := by
  cases result <;> simp [failure?]

theorem failure?_none {result : Except ε α} : failure? result = none ↔ ∃ value, result = .ok value := by
  cases result <;> simp [failure?]

theorem failure?_map (f : α → β) (result : Except ε α) : failure? (result.map f) = failure? result := by
  cases result <;> rfl

theorem failure?_mapM (f : α → Except ε β) (items : List α) :
    failure? (items.mapM f) = items.findSome? fun item => failure? (f item) := by
  induction items with
  | nil => rfl
  | cons item items ih =>
    rw [List.mapM_cons, List.findSome?_cons, ← ih]
    cases f item with
    | error error => rfl
    | ok value => exact failure?_map (value :: ·) (items.mapM f)

private theorem failure?_forM (f : α → Except ε Unit) (items : List α) :
    failure? (items.forM f) = items.findSome? fun item => failure? (f item) := by
  induction items with
  | nil => rfl
  | cons item items ih =>
    rw [List.findSome?_cons, ← ih]
    change failure? (f item >>= fun _ => items.forM f) = _
    cases f item <;> rfl

theorem findSome?_zip {items : List α} {others : List β} (enough : items.length ≤ others.length) (find : α → Option ε) :
    ((items.zip others).findSome? fun pair => find pair.1) = items.findSome? find := by
  change (items.zip others).findSome? (find ∘ Prod.fst) = _
  rw [← List.findSome?_map, List.map_fst_zip enough]

section Sorted

variable {key : α → String} {items : List α} (sorted : items.Pairwise fun first later => key first < key later)

include sorted

theorem first_sorted {item : α} {holds : α → Prop} :
    (∃ before after, items = before ++ item :: after ∧ ∀ earlier ∈ before, holds earlier) ↔
      item ∈ items ∧ ∀ earlier ∈ items, key earlier < key item → holds earlier := by
  constructor
  · rintro ⟨before, after, rfl, each⟩
    obtain ⟨-, behind, -⟩ := List.pairwise_append.mp sorted
    refine ⟨List.mem_append_right before List.mem_cons_self, fun earlier member less => ?_⟩
    rcases List.mem_append.mp member with front | back
    · exact each earlier front
    · rcases List.mem_cons.mp back with rfl | later
      · exact absurd less (String.lt_irrefl _)
      · exact absurd (String.lt_trans less ((List.pairwise_cons.mp behind).1 earlier later)) (String.lt_irrefl _)
  · intro ⟨member, each⟩
    obtain ⟨before, after, rfl⟩ := List.append_of_mem member
    obtain ⟨-, -, across⟩ := List.pairwise_append.mp sorted
    exact ⟨before, after, rfl, fun earlier front =>
      each earlier (List.mem_append_left _ front) (across earlier front item List.mem_cons_self)⟩

theorem findSome?_sorted {find : α → Option β} {found : β} :
    items.findSome? find = some found ↔
      ∃ item ∈ items, find item = some found ∧ ∀ earlier ∈ items, key earlier < key item → find earlier = none := by
  rw [List.findSome?_eq_some_iff]
  constructor
  · intro ⟨before, item, after, split, own, each⟩
    obtain ⟨member, first⟩ := (first_sorted sorted).mp ⟨before, after, split, each⟩
    exact ⟨item, member, own, first⟩
  · intro ⟨item, member, own, first⟩
    obtain ⟨before, after, split, each⟩ := (first_sorted sorted).mpr ⟨member, first⟩
    exact ⟨before, item, after, split, own, each⟩

end Sorted

theorem Dictionary.get?_some {dictionary : Dictionary} {key value : String} :
    dictionary.get? key = some value ↔ (key, value) ∈ dictionary.entries := by
  rw [get?, List.lookup_eq_some_iff, first_sorted dictionary.sorted, and_iff_left_iff_imp]
  rintro - earlier - less
  rw [bne_iff_ne]
  rintro rfl
  exact String.lt_irrefl _ less

namespace Code

/-- A hint stands under a key and names no type. -/
def Refused (settings : Settings) (key hint : String) : Prop :=
  settings.typeHints.get? key = some hint ∧ FieldType.ofHint hint = none

theorem failure?_hint {settings : Settings} {key : String} {error : SchemaError} :
    failure? (settings.hint? key) = some error ↔ ∃ hint, Refused settings key hint ∧ error = .unknownHint key hint := by
  rw [failure?_some, Settings.hint?]
  unfold Refused
  cases settings.typeHints.get? key with
  | none => simp
  | some hint => cases own : FieldType.ofHint hint <;> simp [own, eq_comm]

theorem failure?_unhinted {settings : Settings} {key : String} :
    failure? (settings.hint? key) = none ↔ ∀ hint, ¬ Refused settings key hint := by
  rw [Option.eq_none_iff_forall_ne_some]
  simp only [ne_eq, failure?_hint]
  constructor
  · exact fun sound hint refused => sound _ ⟨hint, refused, rfl⟩
  · rintro sound error ⟨hint, refused, -⟩
    exact sound hint refused

/-- What is wrong with a table: the first of its columns whose hint names no type. -/
def columnFault? (settings : Settings) (table : Schema.Table) : Option SchemaError :=
  table.columns.findSome? fun column => failure? (settings.hint? (Settings.hintKey table column))

private theorem failure?_fields (settings : Settings) (table : Schema.Table) :
    failure? (fields settings table) = columnFault? settings table := by
  rw [fields, failure?_mapM, columnFault?, ← findSome?_zip (fieldIdentifiers_length table.columns).ge]
  simp only [failure?_map, Settings.fieldType]

theorem failure?_render (tables : List Schema.Table) (settings : Settings) :
    failure? (render tables settings) = (sortedTables tables).findSome? (columnFault? settings) := by
  rw [render, failure?_map, entities, failure?_mapM,
    ← findSome?_zip (entityNames_length settings {} (sortedTables tables)).ge]
  simp only [failure?_map, failure?_fields]

theorem columnFault?_none {settings : Settings} {table : Schema.Table} : columnFault? settings table = none ↔
    ∀ column ∈ table.columns, ∀ hint, ¬ Refused settings (table.name ++ "." ++ column.name) hint := by
  rw [columnFault?, List.findSome?_eq_none_iff]
  exact forall₂_congr fun _ _ => failure?_unhinted

/-- Nothing is generated exactly if there is a hint for some column that names no type. -/
theorem render_refused {tables : List Schema.Table} {settings : Settings} :
    (∃ error, render tables settings = .error error) ↔
      ∃ table ∈ tables, ∃ column ∈ table.columns, ∃ hint, Refused settings (table.name ++ "." ++ column.name) hint := by
  simp only [← failure?_some]
  rw [← Option.ne_none_iff_exists', failure?_render, ne_eq, List.findSome?_eq_none_iff]
  simp only [columnFault?_none, mem_sortedTables, not_forall, not_not, exists_prop]

/-- The column that is the first with a hint that names no type, by the name of its table and then as it is declared. -/
structure FirstRefused (settings : Settings) (tables : List Schema.Table) (table : Schema.Table) (column : Schema.Column)
    (hint : String) : Prop where
  member : table ∈ tables
  refused : Refused settings (table.name ++ "." ++ column.name) hint
  firstColumn : ∃ before after, table.columns = before ++ column :: after ∧
    ∀ earlier ∈ before, ∀ other, ¬ Refused settings (table.name ++ "." ++ earlier.name) other
  firstTable : ∀ earlier ∈ tables, earlier.name < table.name →
    ∀ column ∈ earlier.columns, ∀ other, ¬ Refused settings (earlier.name ++ "." ++ column.name) other

private theorem columnFault?_some {settings : Settings} {table : Schema.Table} {error : SchemaError} :
    columnFault? settings table = some error ↔ ∃ column hint, Refused settings (table.name ++ "." ++ column.name) hint ∧
      (∃ before after, table.columns = before ++ column :: after ∧
        ∀ earlier ∈ before, ∀ other, ¬ Refused settings (table.name ++ "." ++ earlier.name) other) ∧
      error = .unknownHint (table.name ++ "." ++ column.name) hint := by
  simp only [columnFault?, List.findSome?_eq_some_iff, failure?_hint, failure?_unhinted, Settings.hintKey]
  constructor
  · intro ⟨before, column, after, split, ⟨hint, refused, same⟩, first⟩
    exact ⟨column, hint, refused, ⟨before, after, split, first⟩, same⟩
  · intro ⟨column, hint, refused, ⟨before, after, split, first⟩, same⟩
    exact ⟨before, column, after, split, ⟨hint, refused, same⟩, first⟩

private theorem render_error {tables : List Schema.Table} {settings : Settings} (distinct : (tables.map (·.name)).Nodup)
    {error : SchemaError} : render tables settings = .error error ↔ ∃ table column hint,
      FirstRefused settings tables table column hint ∧ error = .unknownHint (table.name ++ "." ++ column.name) hint := by
  rw [← failure?_some, failure?_render, findSome?_sorted (sortedTables_increasing distinct)]
  simp only [mem_sortedTables, columnFault?_none, columnFault?_some]
  constructor
  · intro ⟨table, member, ⟨column, hint, refused, firstColumn, same⟩, firstTable⟩
    exact ⟨table, column, hint, ⟨member, refused, firstColumn, firstTable⟩, same⟩
  · intro ⟨table, column, hint, ⟨member, refused, firstColumn, firstTable⟩, same⟩
    exact ⟨table, member, ⟨column, hint, refused, firstColumn, same⟩, firstTable⟩

theorem failure?_validate (settings : Settings) : failure? settings.validate =
    settings.typeHints.entries.findSome? fun entry => failure? (settings.hint? entry.1) := by
  rw [Settings.validate, failure?_forM]
  simp only [failure?_map]

private theorem validate_error {settings : Settings} {error : SchemaError} : settings.validate = .error error ↔
    ∃ key hint, Refused settings key hint ∧ (∀ other rejected, Refused settings other rejected → key ≤ other) ∧
      error = .unknownHint key hint := by
  rw [← failure?_some, failure?_validate, findSome?_sorted settings.typeHints.sorted]
  simp only [failure?_hint, failure?_unhinted]
  constructor
  · rintro ⟨⟨key, _⟩, -, ⟨hint, refused, same⟩, first⟩
    refine ⟨key, hint, refused, fun other rejected also => String.not_lt.mp fun less => ?_, same⟩
    exact first (other, rejected) (Dictionary.get?_some.mp also.1) less rejected also
  · intro ⟨key, hint, refused, smallest, same⟩
    refine ⟨(key, hint), Dictionary.get?_some.mp refused.1, ⟨hint, refused, same⟩, fun earlier _ less other also => ?_⟩
    exact String.not_le.mpr less (smallest earlier.1 other also)

/-- Valid settings have no hint that names no type, for a column or not. -/
theorem validate_ok {settings : Settings} (valid : settings.validate = .ok ()) (key hint : String) :
    ¬ Refused settings key hint := by
  intro refused
  have sound : failure? settings.validate = none := failure?_none.mpr ⟨(), valid⟩
  rw [failure?_validate, List.findSome?_eq_none_iff] at sound
  exact failure?_unhinted.mp (sound (key, hint) (Dictionary.get?_some.mp refused.1)) hint refused

/-- Settings whose hints all name types give every column its type. -/
theorem validate_typed {settings : Settings} (valid : settings.validate = .ok ()) (table : Schema.Table) (column : Schema.Column) :
    ∃ type, settings.fieldType table column = .ok type := by
  rw [← failure?_none, Settings.fieldType, failure?_map]
  exact failure?_unhinted.mpr (validate_ok valid _)

private theorem render_valid {settings : Settings} (valid : settings.validate = .ok ()) (tables : List Schema.Table) :
    ∃ text, render tables settings = .ok text := by
  obtain ⟨models, generated⟩ := entities_typed fun table (_ : table ∈ tables) column _ => validate_typed valid table column
  exact ⟨_, map_eq_ok.mpr ⟨models, generated, rfl⟩⟩

/-- Code is generated unless a column has a hint that names no type, and the error tells the first of these columns and its hint;
valid settings have no such hint, and the error of others tells the smallest key of one. -/
theorem render_settled {tables : List Schema.Table} {settings : Settings} (distinct : (tables.map (·.name)).Nodup) :
    ((∃ error, render tables settings = .error error) ↔
      ∃ table ∈ tables, ∃ column ∈ table.columns, ∃ hint, Refused settings (table.name ++ "." ++ column.name) hint) ∧
    (∀ error, render tables settings = .error error ↔ ∃ table column hint,
      FirstRefused settings tables table column hint ∧ error = .unknownHint (table.name ++ "." ++ column.name) hint) ∧
    (settings.validate = .ok () → ∀ others, ∃ text, render others settings = .ok text) ∧
    ∀ error, settings.validate = .error error ↔ ∃ key hint, Refused settings key hint ∧
      (∀ other rejected, Refused settings other rejected → key ≤ other) ∧ error = .unknownHint key hint :=
  ⟨render_refused, fun _ => render_error distinct, render_valid, fun _ => validate_error⟩

def antTable : Schema.Table :=
  ⟨"ant", [{ name := "queen", declaredType := none }, { name := "legs", declaredType := some "INTEGER" },
    { name := "eyes", declaredType := none }]⟩

def antsLast : List Schema.Table := [⟨"zoo", [{ name := "name", declaredType := none }]⟩, antTable]

/-- Two columns of the second table have a hint that names no type, and so do one of the first and a table that is not there. -/
def strayHints : Settings where
  typeHints := .ofList [("zoo.name", "words"), ("ant.queen", " Boolean"), ("ant.legs", "six"), ("ant.eyes", ""),
    ("aardvark.id", "Text")]

/-- The smallest key is not that of the first column. -/
theorem render_settled_stray : (antsLast.map (·.name)).Nodup ∧
    render antsLast strayHints = .error (.unknownHint "ant.legs" "six") ∧
    strayHints.validate = .error (.unknownHint "aardvark.id" "Text") := by
  have distinct : (antsLast.map (·.name)).Nodup := by decide
  obtain ⟨-, fault, -, invalid⟩ := @render_settled antsLast strayHints distinct
  have first : FirstRefused strayHints antsLast antTable { name := "legs", declaredType := some "INTEGER" } "six" := by
    refine ⟨by decide, ⟨by decide, by decide⟩, ⟨[{ name := "queen", declaredType := none }], _, rfl, ?_⟩, ?_⟩
    · intro earlier member other refused
      rw [List.mem_singleton.mp member] at refused
      have accepted : strayHints.typeHints.get? "ant.queen" = some " Boolean" := by decide
      cases accepted.symm.trans refused.1
      exact absurd refused.2 (by decide)
    · have least : ∀ earlier ∈ antsLast, ¬ earlier.name < antTable.name := by decide
      exact fun earlier member less => absurd less (least earlier member)
  have smallest : ∀ entry ∈ strayHints.typeHints.entries, "aardvark.id" ≤ entry.1 := by decide
  refine ⟨distinct, (fault _).mpr ⟨_, _, _, first, rfl⟩, (invalid _).mpr ⟨"aardvark.id", "Text", ⟨by decide, by decide⟩, ?_, rfl⟩⟩
  exact fun other rejected refused => smallest (other, rejected) (Dictionary.get?_some.mp refused.1)

end Code

end Relmap
