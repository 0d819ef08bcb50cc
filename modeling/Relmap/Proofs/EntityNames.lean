import Relmap.Proofs.IdentifierShape
import Relmap.Proofs.GeneratedModels
import Relmap.Code.Source
import Mathlib.Data.Finset.Card

/-! Names of what is generated. A search for a name that is free ends, since a name that is taken rules out only few
candidates, and so all names that are given in one go differ. -/

namespace Relmap

namespace Identifier

def FirstFree (taken : String → Bool) (candidate : Nat → String) (found : String) : Prop :=
  ∃ n, found = candidate n ∧ taken (candidate n) = false ∧ ∀ earlier < n, taken (candidate earlier) = true

theorem FirstFree.free {taken : String → Bool} {candidate : Nat → String} {found : String}
    (first : FirstFree taken candidate found) : taken found = false := by
  obtain ⟨n, rfl, free, _⟩ := first
  exact free

private theorem firstFree_search (taken : String → Bool) (candidate : Nat → String) (n bound : Nat) :
    ∃ last, n ≤ last ∧ firstFree taken candidate n bound = candidate last ∧
      (∀ earlier, n ≤ earlier → earlier < last → taken (candidate earlier) = true) ∧
      (taken (candidate last) = true → last = n + bound) := by
  induction bound generalizing n with
  | zero => exact ⟨n, Nat.le_refl n, rfl, fun _ _ _ => by omega, fun _ => rfl⟩
  | succ bound ih =>
    rw [firstFree]
    split
    next here =>
      obtain ⟨last, after, found, before, stopped⟩ := ih (n + 1)
      refine ⟨last, by omega, found, ?_, fun taken => by have := stopped taken; omega⟩
      intro earlier atLeast less
      rcases Nat.eq_or_lt_of_le atLeast with rfl | later
      · exact here
      · exact before earlier later less
    next free => exact ⟨n, Nat.le_refl n, rfl, fun _ _ _ => by omega, fun taken => absurd taken free⟩

/-- A search that looks at more candidates than can be taken finds a free one. -/
theorem firstFree_found {taken : String → Bool} {candidate : Nat → String} {bound : Nat}
    (few : ((Finset.range (bound + 1)).filter fun n => taken (candidate n) = true).card ≤ bound) :
    FirstFree taken candidate (firstFree taken candidate 0 bound) := by
  obtain ⟨last, -, found, before, stopped⟩ := firstFree_search taken candidate 0 bound
  refine ⟨last, found, ?_, fun earlier less => before earlier (Nat.zero_le _) less⟩
  cases own : taken (candidate last) with
  | false => rfl
  | true =>
    have atEnd : last = 0 + bound := stopped own
    have every : (Finset.range (bound + 1)).filter (fun n => taken (candidate n) = true) = Finset.range (bound + 1) := by
      refine Finset.filter_true_of_mem fun n inside => ?_
      have within : n ≤ last := by
        rw [Finset.mem_range] at inside
        omega
      rcases Nat.eq_or_lt_of_le within with rfl | less
      · exact own
      · exact before n (Nat.zero_le _) less
    rw [every, Finset.card_range] at few
    omega

private theorem firstFree_among (taken : String → Bool) (candidate : Nat → String) (n bound : Nat) :
    ∃ last, firstFree taken candidate n bound = candidate last := by
  obtain ⟨last, -, found, -⟩ := firstFree_search taken candidate n bound
  exact ⟨last, found⟩

theorem card_among (names : List String) {spelling : Nat → String} (injective : Function.Injective spelling) (bound : Nat) :
    ((Finset.range bound).filter fun n => spelling n ∈ names).card ≤ names.length := by
  refine (Finset.card_le_card_of_injOn spelling ?_ injective.injOn).trans names.toFinset_card_le
  intro n inside
  simpa using (Finset.mem_filter.mp inside).2

end Identifier

namespace Code

open Identifier

theorem numbered_zero (base separator : String) : numbered base separator 0 = base := rfl

theorem numbered_toList (base separator : String) (n : Nat) : (numbered base separator (n + 1)).toList =
    base.toList ++ separator.toList ++ Nat.toDigits 10 (n + 2) := by
  simp [numbered]

theorem digits_digit {n : Nat} : ∀ c ∈ Nat.toDigits 10 n, c.isDigit = true :=
  fun _ member => Nat.isDigit_of_mem_toDigits (by decide) (by decide) member

/-- The numbered names differ even in the style of functions. -/
theorem snake_numbered_injective (base : String) : Function.Injective (snakeCase ∘ numbered base "") := by
  obtain ⟨stem, lengthened⟩ := snake_digits base.toList
  have apart : ∀ n, snake (numbered base "" (n + 1)).toList = stem ++ Nat.toDigits 10 (n + 2) ∧
      snake base.toList ≠ stem ++ Nat.toDigits 10 (n + 2) := by
    intro n
    rw [numbered_toList]
    simpa using lengthened _ Nat.toDigits_ne_nil digits_digit
  intro n m same
  have equal : snake (numbered base "" n).toList = snake (numbered base "" m).toList := String.ofList_injective same
  cases n with
  | zero =>
    cases m with
    | zero => rfl
    | succ m =>
      rw [numbered_zero, (apart m).1] at equal
      exact absurd equal (apart m).2
  | succ n =>
    cases m with
    | zero =>
      rw [numbered_zero, (apart n).1] at equal
      exact absurd equal.symm (apart n).2
    | succ m =>
      rw [(apart n).1, (apart m).1] at equal
      have number := congrArg (fun digits => Nat.ofDigitChars 10 digits 0) (List.append_cancel_left equal)
      simpa using number

theorem numbered_injective (base separator : String) : Function.Injective (numbered base separator) := by
  intro n m same
  have equal := congrArg String.toList same
  cases n with
  | zero =>
    cases m with
    | zero => rfl
    | succ m => simp [numbered_zero, numbered_toList] at equal
  | succ n =>
    cases m with
    | zero => simp [numbered_zero, numbered_toList] at equal
    | succ m =>
      rw [numbered_toList, numbered_toList] at equal
      have number := congrArg (fun digits => Nat.ofDigitChars 10 digits 0) (List.append_cancel_left equal)
      simpa using number

private theorem mapperName_injective : Function.Injective mapperName := by
  intro first second same
  have equal := congrArg String.toList same
  rw [mapperName, mapperName, String.toList_append, String.toList_append] at equal
  exact String.toList_injective (List.append_cancel_right equal)

private theorem mapperName_ne (name : String) : name ≠ mapperName name := by
  intro same
  have lengths := congrArg String.length same
  rw [mapperName, String.length_append, show "RowMapper".length = 9 from rfl] at lengths
  omega

namespace Names

theorem takes_iff {names : Names} {candidate : String} : names.takes candidate = true ↔
    candidate ∈ names.types ∨ mapperName candidate ∈ names.types ∨ snakeCase candidate ∈ names.snakes := by
  simp [takes, or_assoc]

/-- A name that is taken as a type rules out two candidates at most, one that is taken as a function one. -/
theorem fresh_firstFree (names : Names) (base : String) :
    FirstFree names.takes (numbered base "") (names.fresh base) := by
  apply firstFree_found
  have types := card_among names.types (numbered_injective base "")
  have mappers := card_among names.types (mapperName_injective.comp (numbered_injective base ""))
  have snakes := card_among names.snakes (snake_numbered_injective base)
  simp only [takes_iff, Finset.filter_or]
  refine (Finset.card_union_le _ _).trans ?_
  have others := Finset.card_union_le
    ((Finset.range (2 * (names.types.length + names.snakes.length) + 1)).filter fun n => mapperName (numbered base "" n) ∈ names.types)
    ((Finset.range (2 * (names.types.length + names.snakes.length) + 1)).filter fun n => snakeCase (numbered base "" n) ∈ names.snakes)
  have own := types (2 * (names.types.length + names.snakes.length) + 1)
  have mapped := mappers (2 * (names.types.length + names.snakes.length) + 1)
  have spoken := snakes (2 * (names.types.length + names.snakes.length) + 1)
  simp only [Function.comp_apply] at mapped spoken
  omega

end Names

theorem field_firstFree (used : List String) (base : String) :
    FirstFree used.contains (numbered base "_") (firstFree used.contains (numbered base "_") 0 used.length) := by
  apply firstFree_found
  simp only [List.contains_iff_mem]
  exact card_among used (numbered_injective base "_") _

private theorem numbered_nonempty {base : String} (nonempty : base ≠ "") (separator : String) (n : Nat) :
    numbered base separator n ≠ "" := by
  unfold numbered
  split
  · exact nonempty
  · intro empty
    exact nonempty (String.append_eq_empty_iff.mp (String.append_eq_empty_iff.mp empty).1).1

private theorem numbered_all {holds : Char → Prop} {base separator : String} (digits : ∀ c, c.isDigit = true → holds c)
    (own : ∀ c ∈ base.toList, holds c) (between : ∀ c ∈ separator.toList, holds c) (n : Nat) :
    ∀ c ∈ (numbered base separator n).toList, holds c := by
  cases n with
  | zero => exact own
  | succ n =>
    rw [numbered_toList]
    refine List.forall_mem_append.mpr ⟨List.forall_mem_append.mpr ⟨own, between⟩, ?_⟩
    exact fun c member => digits c (digits_digit c member)

theorem distinctIdentifiers_numbered (used names : List String) :
    ∀ identifier ∈ distinctIdentifiers used names, ∃ name n, identifier = numbered (snakeCase name) "_" n := by
  induction names generalizing used with
  | nil => exact fun _ member => absurd member List.not_mem_nil
  | cons name names ih =>
    obtain ⟨n, own⟩ := firstFree_among used.contains (numbered (snakeCase name) "_") 0 used.length
    exact List.forall_mem_cons.mpr ⟨⟨name, n, own⟩, ih _⟩

theorem distinctIdentifiers_plain (used names : List String) :
    ∀ identifier ∈ distinctIdentifiers used names, identifier ≠ "" ∧ ∀ c ∈ identifier.toList, isPlain c = true := by
  intro identifier member
  obtain ⟨name, n, rfl⟩ := distinctIdentifiers_numbered used names identifier member
  have spelled := snakeCase_toList name
  refine ⟨numbered_nonempty (fun empty => ?_) "_" n, numbered_all (fun c digit => ?_) ?_ (spelled_all rfl) n⟩
  · rw [empty] at spelled
    exact snake_nonempty name.toList spelled.symm
  · simp [isPlain, digit]
  · rw [spelled]
    exact snake_plain name.toList

/-- A field's identifier is in small letters, whatever the column is called; a mark shows that it would be a keyword. -/
theorem fieldIdentifiers_plain (columns : List Schema.Column) :
    ∀ identifier ∈ fieldIdentifiers columns, identifier ≠ "" ∧ ∀ c ∈ identifier.toList, isPlain c = true ∨ c = '#' := by
  intro identifier member
  obtain ⟨plain, inside, rfl⟩ := List.mem_map.mp member
  obtain ⟨nonempty, own⟩ := distinctIdentifiers_plain [] _ plain inside
  have kept : ∀ c ∈ plain.toList, isPlain c = true ∨ c = '#' := fun c member => .inl (own c member)
  unfold escapeKeyword
  split
  · refine ⟨fun empty => nonempty (String.append_eq_empty_iff.mp empty).1, ?_⟩
    rw [String.toList_append]
    exact List.forall_mem_append.mpr ⟨kept, fun c inside => .inl (spelled_all rfl c inside)⟩
  · split
    · have front : ∀ c ∈ "r#".toList, (isPlain c || c == '#') = true := spelled_all rfl
      refine ⟨fun empty => nonempty (String.append_eq_empty_iff.mp empty).2, ?_⟩
      rw [String.toList_append]
      exact List.forall_mem_append.mpr ⟨fun c inside => by simpa using front c inside, kept⟩
    · exact ⟨nonempty, kept⟩

private theorem fields_identifiers {settings : Settings} {table : Schema.Table} {models : List FieldModel}
    (generated : fields settings table = .ok models) : models.map (·.identifier) = fieldIdentifiers table.columns := by
  have sources := congrArg (List.map Prod.snd) (fields_ok.mp generated).1
  rw [List.map_map, List.map_snd_zip (fieldIdentifiers_length table.columns).le] at sources
  exact sources

theorem fields_plain {settings : Settings} {table : Schema.Table} {models : List FieldModel}
    (generated : fields settings table = .ok models) :
    ∀ model ∈ models, model.identifier ≠ "" ∧ ∀ c ∈ model.identifier.toList, isPlain c = true ∨ c = '#' := by
  intro model member
  apply fieldIdentifiers_plain table.columns
  rw [← fields_identifiers generated]
  exact List.mem_map_of_mem member

/-- An entity is called what a setting says or by a name in the style of types. -/
theorem baseName_cases (settings : Settings) (table : Schema.Table) :
    (∃ entry ∈ settings.structNames.entries, entry.2 = baseName settings table) ∨ IsType (baseName settings table).toList := by
  unfold baseName
  cases given : settings.structNames.get? table.name with
  | some name =>
    obtain ⟨before, after, entries, -⟩ := List.lookup_eq_some_iff.mp given
    refine .inl ⟨(table.name, name), ?_, rfl⟩
    rw [entries]
    exact List.mem_append_right before List.mem_cons_self
  | none =>
    right
    rw [Option.getD_none, typeName, String.toList_ofList]
    exact pascal_isType _

def declared (name : String) : List String := [name, mapperName name]

/-- Names that differ from each other and from those that were taken before. -/
structure Names.Apart (names : Names) (given : List String) : Prop where
  types : (given.flatMap declared).Nodup
  typesNew : ∀ name ∈ given.flatMap declared, name ∉ names.types
  snakes : (given.map snakeCase).Nodup
  snakesNew : ∀ name ∈ given.map snakeCase, name ∉ names.snakes

theorem Names.Apart.cons {names : Names} {name : String} {given : List String} (free : names.takes name = false)
    (apart : (names.claim name).Apart given) : names.Apart (name :: given) := by
  rw [← Bool.not_eq_true, takes_iff, not_or, not_or] at free
  obtain ⟨own, mapper, snake⟩ := free
  have typesNew : ∀ other ∈ given.flatMap declared, other ≠ name ∧ other ≠ mapperName name ∧ other ∉ names.types := by
    simpa only [claim, List.mem_cons, not_or] using apart.typesNew
  have snakesNew : ∀ other ∈ given.map snakeCase, other ≠ snakeCase name ∧ other ∉ names.snakes := by
    simpa only [claim, List.mem_cons, not_or] using apart.snakesNew
  constructor
  case types =>
    refine List.nodup_cons.mpr ⟨?_, List.nodup_cons.mpr ⟨fun member => (typesNew _ member).2.1 rfl, apart.types⟩⟩
    change name ∉ mapperName name :: given.flatMap declared
    rw [List.mem_cons, not_or]
    exact ⟨mapperName_ne name, fun member => (typesNew _ member).1 rfl⟩
  case typesNew =>
    refine List.forall_mem_cons.mpr ⟨own, List.forall_mem_cons.mpr ⟨mapper, ?_⟩⟩
    exact fun other member => (typesNew other member).2.2
  case snakes => exact List.nodup_cons.mpr ⟨fun member => (snakesNew _ member).1 rfl, apart.snakes⟩
  case snakesNew => exact List.forall_mem_cons.mpr ⟨snake, fun other member => (snakesNew other member).2⟩

theorem entityNames_apart (settings : Settings) (names : Names) (tables : List Schema.Table) :
    names.Apart (entityNames settings names tables) := by
  induction tables generalizing names with
  | nil => exact ⟨.nil, by simp [entityNames], .nil, by simp [entityNames]⟩
  | cons table tables ih => exact (ih _).cons (names.fresh_firstFree _).free

private theorem entityNames_numbered (settings : Settings) (names : Names) (tables : List Schema.Table) :
    List.Forall₂ (fun table name => ∃ n, name = numbered (baseName settings table) "" n) tables
      (entityNames settings names tables) := by
  induction tables generalizing names with
  | nil => exact .nil
  | cons table tables ih =>
    obtain ⟨n, own, _⟩ := names.fresh_firstFree (baseName settings table)
    exact .cons ⟨n, own⟩ (ih _)

private theorem numbered_isType {base : String} (isType : IsType base.toList) (n : Nat) :
    IsType (numbered base "" n).toList := by
  cases n with
  | zero => exact isType
  | succ n =>
    rw [numbered_toList, String.toList_empty, List.append_nil]
    exact isType.digits digits_digit

/-- The only keyword with a capital is a type that is known already. -/
theorem isType_keyword {name : String} (isType : IsType name.toList) (keyword : name ∈ keywords ++ strictKeywords) :
    name ∈ reservedTypes := by
  have capital : ∀ word ∈ keywords ++ strictKeywords, word.toList.head?.any Char.isUpper = true → word ∈ reservedTypes := by
    decide
  obtain ⟨first, own, isUpper⟩ := isType.1
  apply capital name keyword
  rw [Option.mem_def.mp own, Option.any_some]
  exact isUpper

def accessorName (entity : EntityModel) : String := entity.snake ++ "_table"

/-- Nothing that is declared for entities has the name of anything else that is declared or referred to. -/
structure NamesApart (settings : Settings) (models : List EntityModel) : Prop where
  types : (models.flatMap (declared ·.name) ++ reservedTypes).Nodup
  snakes : (models.map (·.snake)).Nodup
  items : (models.map accessorName ++ models.map columnsName ++ ["TABLES", "init", "install"]).Nodup
  derived : ∀ model ∈ models, settings.structNames.get? model.table.name = none →
    IsType model.name.toList ∧ model.name ∉ keywords ++ strictKeywords

theorem accessorName_toList (entity : EntityModel) :
    (accessorName entity).toList = entity.snake.toList ++ "_table".toList := String.toList_append

theorem columnsName_toList (entity : EntityModel) :
    (columnsName entity).toList = Text.upper entity.snake.toList ++ "_COLUMNS".toList := by
  rw [columnsName, String.toList_append, String.toList_ofList]

theorem snake_isPlain (entity : EntityModel) : ∀ c ∈ entity.snake.toList, isPlain c = true := by
  rw [EntityModel.snake, snakeCase_toList]
  exact snake_plain entity.name.toList

theorem plain_upper {c : Char} (plain : isPlain c = true) : c.toUpper.toLower = c := by
  rcases plain_cases plain with rfl | ⟨alphanum, letter⟩
  · rfl
  · exact alphanum_all (fun c => c.isLower = true ∨ c.isDigit = true → c.toUpper.toLower = c) (by decide) alphanum letter

/-- No two names in small letters have the same capitals. -/
theorem upper_plain {text : List Char} (plain : ∀ c ∈ text, isPlain c = true) : Text.lower (Text.upper text) = text := by
  rw [Text.lower, Text.upper, List.map_map]
  exact (List.map_congr_left fun c member => plain_upper (plain c member)).trans (List.map_id' text)

private theorem accessorName_snake {first second : EntityModel} (same : accessorName first = accessorName second) :
    first.snake = second.snake := by
  have spelled := congrArg String.toList same
  rw [accessorName_toList, accessorName_toList] at spelled
  exact String.toList_injective (List.append_cancel_right spelled)

private theorem columnsName_snake {first second : EntityModel} (same : columnsName first = columnsName second) :
    first.snake = second.snake := by
  have spelled := congrArg String.toList same
  rw [columnsName_toList, columnsName_toList] at spelled
  have lowered := congrArg Text.lower (List.append_cancel_right spelled)
  rw [upper_plain (snake_isPlain first), upper_plain (snake_isPlain second)] at lowered
  exact String.toList_injective lowered

private theorem accessorName_last (entity : EntityModel) : (accessorName entity).toList.getLast? = some 'e' := by
  rw [accessorName_toList, List.getLast?_append_of_ne_nil _ (by decide)]
  rfl

private theorem columnsName_last (entity : EntityModel) : (columnsName entity).toList.getLast? = some 'S' := by
  rw [columnsName_toList, List.getLast?_append_of_ne_nil _ (by decide)]
  rfl

theorem columnsName_length (entity : EntityModel) : 8 ≤ (columnsName entity).length := by
  rw [columnsName, String.length_append]
  exact Nat.le_add_left 8 _

theorem columnsNames_apart {models : List EntityModel} (snakes : (models.map (·.snake)).Nodup) :
    (models.map columnsName).Nodup := by
  rw [List.Nodup, List.pairwise_map] at snakes ⊢
  exact snakes.imp fun differ same => differ (columnsName_snake same)

private theorem items_apart {models : List EntityModel} (snakes : (models.map (·.snake)).Nodup) :
    (models.map accessorName ++ models.map columnsName ++ ["TABLES", "init", "install"]).Nodup := by
  have functions : (models.map accessorName).Nodup := by
    rw [List.Nodup, List.pairwise_map] at snakes ⊢
    exact snakes.imp fun differ same => differ (accessorName_snake same)
  have statics := columnsNames_apart snakes
  have endings : ∀ name ∈ models.map accessorName, name.toList.getLast? = some 'e' := by
    intro name member
    obtain ⟨entity, _, rfl⟩ := List.mem_map.mp member
    exact accessorName_last entity
  have capitals : ∀ name ∈ models.map columnsName, name.toList.getLast? = some 'S' ∧ 8 ≤ name.length := by
    intro name member
    obtain ⟨entity, _, rfl⟩ := List.mem_map.mp member
    exact ⟨columnsName_last entity, columnsName_length entity⟩
  have fixed : ∀ name ∈ ["TABLES", "init", "install"],
      name.toList.getLast? ≠ some 'e' ∧ (name.toList.getLast? = some 'S' → name.length < 8) := by decide
  refine List.nodup_append'.mpr ⟨List.nodup_append'.mpr ⟨functions, statics, ?_⟩, by decide, ?_⟩
  · intro name function capital
    have same := (endings name function).symm.trans (capitals name capital).1
    contradiction
  · intro name given own
    rcases List.mem_append.mp given with function | capital
    · exact (fixed name own).1 (endings name function)
    · obtain ⟨ending, long⟩ := capitals name capital
      exact absurd ((fixed name own).2 ending) (Nat.not_lt.mpr long)

theorem entities_names {tables : List Schema.Table} {settings : Settings} {models : List EntityModel}
    (generated : entities tables settings = .ok models) :
    models.map (·.name) = entityNames settings {} (sortedTables tables) := by
  have sources := congrArg (List.map Prod.snd) (entities_ok.mp generated).1
  rw [List.map_map, List.map_snd_zip (entityNames_length settings {} (sortedTables tables)).le] at sources
  exact sources

theorem entities_numbered {tables : List Schema.Table} {settings : Settings} {models : List EntityModel}
    (generated : entities tables settings = .ok models) :
    ∀ model ∈ models, ∃ n, model.name = numbered (baseName settings model.table) "" n := by
  have given := entityNames_numbered settings {} (sortedTables tables)
  rw [← entities_names generated, ← entities_tables generated, List.forall₂_map_left_iff, List.forall₂_map_right_iff,
    List.forall₂_same] at given
  exact given

theorem entities_snakes {tables : List Schema.Table} {settings : Settings} {models : List EntityModel}
    (generated : entities tables settings = .ok models) : (models.map (·.snake)).Nodup := by
  have snakes := (entityNames_apart settings {} (sortedTables tables)).snakes
  rw [← entities_names generated, List.map_map] at snakes
  exact snakes

private theorem entities_namesApart {tables : List Schema.Table} {settings : Settings} {models : List EntityModel}
    (generated : entities tables settings = .ok models) : NamesApart settings models := by
  have apart := entityNames_apart settings {} (sortedTables tables)
  rw [← entities_names generated] at apart
  have types := apart.types
  have unreserved : ∀ name ∈ models.flatMap (declared ·.name), name ∉ reservedTypes := by
    simpa only [List.flatMap_map] using apart.typesNew
  rw [List.flatMap_map] at types
  refine ⟨?_, entities_snakes generated, items_apart (entities_snakes generated), ?_⟩
  · exact List.nodup_append'.mpr ⟨types, by decide, unreserved⟩
  · intro model member unnamed
    obtain ⟨n, own⟩ := entities_numbered generated model member
    have isType : IsType model.name.toList := by
      rw [own]
      apply numbered_isType
      rw [baseName, unnamed, Option.getD_none, typeName, String.toList_ofList]
      exact pascal_isType _
    refine ⟨isType, fun keyword => ?_⟩
    have inside : model.name ∈ models.flatMap (declared ·.name) :=
      List.mem_flatMap.mpr ⟨model, member, List.mem_cons_self⟩
    exact unreserved model.name inside (isType_keyword isType keyword)

/-- Whatever is taken, the searches for names end with the first candidate that is free, and so whatever a schema's
tables and a user's overrides are called, all names that are declared for them differ. -/
theorem names_settled (tables : List Schema.Table) (settings : Settings) :
    (∀ (names : Names) base, FirstFree names.takes (numbered base "") (names.fresh base)) ∧
    (∀ (used : List String) base, FirstFree used.contains (numbered base "_")
      (firstFree used.contains (numbered base "_") 0 used.length)) ∧
    ∀ models, entities tables settings = .ok models → NamesApart settings models :=
  ⟨Names.fresh_firstFree, field_firstFree, fun _ generated => entities_namesApart generated⟩

def lookalikes : List Schema.Table :=
  [⟨"apple", []⟩, ⟨"Apple", []⟩, ⟨"fruit", []⟩, ⟨"self", []⟩]

def overriding : Settings := { structNames := .ofList [("fruit", "Option")] }

theorem names_settled_lookalikes :
    ∃ models, entities lookalikes overriding = .ok models ∧ NamesApart overriding models := by
  obtain ⟨models, generated⟩ : ∃ models, entities lookalikes overriding = .ok models :=
    entities_typed fun _ _ _ _ => ⟨_, fieldType_unhinted rfl⟩
  exact ⟨models, generated, (names_settled lookalikes overriding).2.2 models generated⟩

end Code

end Relmap
