import Relmap.Proofs.SourceReading
import Relmap.Proofs.EntityNames

/-! What the generated source declares, read back from its text: the tables of the schema in the order of their names,
each with its columns, a function for each table and a mapper for each entity. -/

namespace Relmap

namespace Source

open Code Identifier

theorem plain_wordChar {c : Char} (plain : isPlain c = true) : isWordChar c = true ∧ isWordChar c.toUpper = true := by
  rcases plain_cases plain with rfl | ⟨alphanum, -⟩
  · decide
  · exact alphanum_all (fun c => isWordChar c = true ∧ isWordChar c.toUpper = true) (by decide) alphanum

private theorem accessorName_path (entity : EntityModel) : IsPath (accessorName entity) := by
  have spelled := accessorName_toList entity
  refine letters_path (fun empty => ?_) ?_
  · rw [empty] at spelled
    simp at spelled
  · rw [spelled]
    exact List.forall_mem_append.mpr ⟨fun c member => (plain_wordChar (snake_isPlain entity c member)).1, spelled_all rfl⟩

theorem columnsName_path (entity : EntityModel) : IsPath (columnsName entity) := by
  have spelled := columnsName_toList entity
  refine letters_path (fun empty => ?_) ?_
  · rw [empty] at spelled
    simp at spelled
  · rw [spelled]
    refine List.forall_mem_append.mpr ⟨fun c member => ?_, spelled_all rfl⟩
    obtain ⟨plain, inside, rfl⟩ := List.mem_map.mp member
    exact (plain_wordChar (snake_isPlain entity plain inside)).2

theorem mapperName_path {name : String} (path : IsPath name) : IsPath (mapperName name) := path.append (spelled_all rfl)

set_option maxRecDepth 2000 in
theorem header_shows {runtime : String} (path : IsPath runtime) : Shows (header runtime) [] := by
  have front : Splits .between ("use " ++ runtime) [.word "use"] (.word runtime.toList) := .chain (.spelled rfl) path.splits rfl
  have registry := (front.append (.spelled rfl : Splits _ "::registry::\x7binstall, OrmRegistry\x7d;" _ .between)).ended
  have names := (front.append (.spelled rfl : Splits _ "::\x7b" _ .between)).ended
  refine .cons (.spelled rfl rfl) (.cons (.spelled rfl rfl) ?_)
  refine .cons (.line registry (.quiet rfl)) (.cons (.line names (.quiet rfl)) ?_)
  exact .cons (.spelled rfl rfl) (.spelled rfl rfl)

/-- Arguments of a call end with a comma or a bracket. -/
def Argument (piece : String) (tokens : List Token) : Prop :=
  ∀ c ∈ [',', ')'], Splits .between (piece ++ String.ofList [c]) (tokens ++ [.mark c]) .between

theorem argument_word {piece : String} (path : IsPath piece) : Argument piece [.word piece] := by
  intro c member
  simp only [List.mem_cons, List.not_mem_nil, or_false] at member
  rcases member with rfl | rfl <;> exact .chain path.splits (.behind rfl) rfl

theorem argument_text (content : String) : Argument (Text.literal content) [.text content] := by
  intro c member
  simp only [List.mem_cons, List.not_mem_nil, or_false] at member
  rcases member with rfl | rfl <;> exact .chain (.literal content) (.spelled rfl) rfl

private theorem argument_reference {name : String} (path : IsPath name) :
    Argument ("&" ++ name) [.mark '&', .word name] := by
  intro c member
  simp only [List.mem_cons, List.not_mem_nil, or_false] at member
  rcases member with rfl | rfl <;> exact .named (.spelled rfl) path rfl rfl

def defaultTokens : Option String → List Token
  | none => [.word "None"]
  | some expression => [.word "Some", .mark '(', .text expression, .mark ')']

private theorem argument_default (default : Option String) : Argument (match default with
    | some expression => "Some(" ++ Text.literal expression ++ ")"
    | none => "None") (defaultTokens default) := by
  intro c member
  simp only [List.mem_cons, List.not_mem_nil, or_false] at member
  cases default with
  | none => rcases member with rfl | rfl <;> exact .chain (.spelled rfl) (.spelled rfl) rfl
  | some expression =>
    have whole : Splits .between ("Some(" ++ Text.literal expression ++ ")") (defaultTokens (some expression)) .between :=
      .quoted (.spelled rfl) rfl rfl
    rcases member with rfl | rfl <;> exact whole.append (.spelled rfl)

theorem arguments_split {pieces : List String} {tokens : List (List Token)} (each : List.Forall₂ Argument pieces tokens) :
    Splits .between (", ".intercalate pieces ++ ")") ([.mark ','].intercalate tokens ++ [.mark ')']) .between := by
  induction each with
  | nil => exact .spelled rfl
  | @cons piece own pieces tokens one others ih =>
    cases others with
    | nil =>
      rw [String.intercalate_singleton, List.intercalate_singleton]
      exact one ')' (by decide)
    | cons second others =>
      have blank : Splits .between " " [] .between := .spelled rfl
      have whole := ((one ',' (by decide)).append blank).append ih
      rw [String.intercalate_cons_cons, List.intercalate_cons_cons]
      have comma : piece ++ String.ofList [','] ++ " " = piece ++ ", " := String.append_assoc
      rw [comma, List.append_nil, ← String.append_assoc, ← List.append_assoc] at whole
      exact whole

def columnTokens (column : Schema.Column) : List Token :=
  .word "ColumnMeta::new" :: .mark '(' :: .text column.name :: .mark ',' ::
    .word ("Affinity::" ++ column.affinity.constructor) :: .mark ',' :: .word (boolean column.nullable) :: .mark ',' ::
    (defaultTokens column.default ++ [.mark ',', .word (toString column.keyOrdinal.toNat), .mark ',',
      .word (boolean column.autoIncrement), .mark ')'])

theorem boolean_path (flag : Bool) : IsPath (boolean flag) := by
  cases flag <;> decide

private theorem affinity_path (affinity : Affinity) : IsPath ("Affinity::" ++ affinity.constructor) := by
  cases affinity <;> decide

private theorem columnElement_splits (column : Schema.Column) :
    Splits .between (columnElement column) (columnTokens column) .between := by
  have arguments := arguments_split (.cons (argument_text column.name) (.cons (argument_word (affinity_path column.affinity))
    (.cons (argument_word (boolean_path column.nullable)) (.cons (argument_default column.default)
      (.cons (argument_word (number_path column.keyOrdinal.toNat)) (.cons (argument_word (boolean_path column.autoIncrement)) .nil))))))
  have called : Splits .between "ColumnMeta::new(" [.word "ColumnMeta::new", .mark '('] .between := .spelled rfl
  have whole := called.append arguments
  rw [← String.append_assoc] at whole
  have listed : columnTokens column = [.word "ColumnMeta::new", .mark '('] ++ ([.mark ','].intercalate [[.text column.name],
      [.word ("Affinity::" ++ column.affinity.constructor)], [.word (boolean column.nullable)], defaultTokens column.default,
      [.word (toString column.keyOrdinal.toNat)], [.word (boolean column.autoIncrement)]] ++ [.mark ')']) := by
    simp [columnTokens, List.intercalate, List.intersperse]
  rw [listed]
  exact whole

theorem truth_boolean (flag : Bool) : truth? (boolean flag) = some flag := by
  cases flag <;> rfl

private theorem affinity_constructor (affinity : Affinity) :
    affinity? ("Affinity::" ++ affinity.constructor) = some affinity := by
  cases affinity <;> rfl

private theorem default_reads (own : Option String) : Reads default (defaultTokens own) own := by
  cases own with
  | none => exact .left ((Reads.expect [.word "None"]).bind (.pure none))
  | some expression =>
    refine .right (fun _ => rfl) ?_
    exact (Reads.expect _).bind ((Reads.text expression).bind ((Reads.expect _).bind (.pure (some expression))))

private theorem column_reads (own : Schema.Column) : Reads column (columnTokens own) own.toColumn :=
  (Reads.expect _).bind ((Reads.text own.name).bind ((Reads.expect _).bind ((Reads.meaning (affinity_constructor own.affinity)).bind
    ((Reads.expect _).bind ((Reads.meaning (truth_boolean own.nullable)).bind ((Reads.expect _).bind ((default_reads own.default).bind
      ((Reads.expect _).bind ((Reads.meaning (ordinal_toString own.keyOrdinal)).bind ((Reads.expect _).bind
        ((Reads.meaning (truth_boolean own.autoIncrement)).bind ((Reads.expect _).bind (.pure own.toColumn)))))))))))))

def entryTokens (entity : EntityModel) : List Token :=
  [.word "TableMeta::new", .mark '(', .text entity.table.name, .mark ',', .text entity.table.typeId, .mark ',', .mark '&',
    .word (columnsName entity), .mark ')']

private theorem tableElement_splits (entity : EntityModel) :
    Splits .between (tableElement entity) (entryTokens entity) .between := by
  have arguments := arguments_split (.cons (argument_text entity.table.name) (.cons (argument_text entity.table.typeId)
    (.cons (argument_reference (columnsName_path entity)) .nil)))
  have called : Splits .between "TableMeta::new(" [.word "TableMeta::new", .mark '('] .between := .spelled rfl
  have whole := called.append arguments
  rw [← String.append_assoc] at whole
  exact whole

def entryOf (entity : EntityModel) : Entry := ⟨entity.table.name, entity.table.typeId, columnsName entity⟩

private theorem entry_reads (entity : EntityModel) : Reads entry (entryTokens entity) (entryOf entity) :=
  (Reads.expect _).bind ((Reads.text entity.table.name).bind ((Reads.expect _).bind ((Reads.text entity.table.typeId).bind
    ((Reads.expect _).bind ((Reads.word (columnsName entity)).bind ((Reads.expect _).bind (.pure (entryOf entity))))))))

def arrayTokens (name type : String) (elements : List (List Token)) : List Token :=
  .word "static" :: .word name :: .mark ':' :: .mark '[' :: .word type :: .mark ';' :: .word (toString elements.length) ::
    .mark ']' :: .mark '=' :: .mark '[' :: (elements.flatMap (· ++ [.mark ',']) ++ [.mark ']', .mark ';'])

private theorem array_prints {α : Type} {name type : String} {items : List α} {element : α → String}
    {shown : α → List Token}
    (named : IsPath name) (typed : IsPath type) (each : ∀ item, Splits .between (element item) (shown item) .between) :
    Prints (Code.array name type (items.map element)) (arrayTokens name type (items.map shown)) := by
  have opening : Splits .between ("static " ++ name ++ ": [" ++ type ++ "; " ++ toString items.length ++ "] = [" ++ "\n")
      [.word "static", .word name, .mark ':', .mark '[', .word type, .mark ';', .word (toString items.length), .mark ']',
        .mark '=', .mark '['] .between := by
    apply Splits.ended
    exact .named (.named (.named (.spelled rfl) named rfl rfl) typed rfl rfl) (number_path items.length) rfl rfl
  have closing : Splits .between ("];" ++ "\n") [.mark ']', .mark ';'] .between := .ended (.spelled rfl)
  have body : Prints (items.map fun item => element item ++ ",") (items.flatMap fun item => shown item ++ [.mark ',']) := by
    refine .map fun item _ => ?_
    exact ((each item).append (.spelled rfl)).ended
  have whole := Prints.cons opening (body.indented.append (.single closing))
  rw [Code.array, List.length_map, List.map_map, arrayTokens, List.length_map, List.flatMap_map]
  exact whole

theorem array_reads {α β : Type} {name type : String} {items : List β} {read : Reader α} {shown : β → List Token} {of : β → α}
    (each : ∀ item, Reads read (shown item) (of item)) (begins : ∀ item, ∃ spelling rest, shown item = .word spelling :: rest) :
    Reads (array type read) (arrayTokens name type (items.map shown)) ⟨name, items.length, items.map of⟩ := by
  have elements : Reads (list ']' read) (items.flatMap (fun item => shown item ++ [.mark ',']) ++ [.mark ']']) (items.map of) :=
    .list ']' (fun item _ => each item) fun item _ => begins item
  have closing : items.flatMap (fun item => shown item ++ [Token.mark ',']) ++ [.mark ']', .mark ';'] =
      items.flatMap (fun item => shown item ++ [Token.mark ',']) ++ [.mark ']'] ++ ([.mark ';'] ++ []) := by
    rw [List.append_assoc]
    rfl
  rw [arrayTokens, List.length_map, List.flatMap_map, closing]
  exact (Reads.expect _).bind ((Reads.word name).bind ((Reads.expect _).bind ((Reads.meaning (number_toString _)).bind
    ((Reads.expect _).bind (elements.bind ((Reads.expect _).bind (.pure (Declared.mk name items.length (items.map of)))))))))

theorem array_shows {β : Type} {name type : String} {items : List β} {shown : β → List Token} {element : β → String}
    {found : Declaration} (named : IsPath name) (typed : IsPath type)
    (each : ∀ item, Splits .between (element item) (shown item) .between) (passed : ∀ item, Declares (shown item) [])
    (read : Reads declaration (arrayTokens name type (items.map shown)) found) :
    Shows (Code.array name type (items.map element)) [found] := by
  have elements : Declares ((items.map shown).flatMap (· ++ [.mark ','])) [] := by
    rw [List.flatMap_map]
    exact .flatMap fun item _ => (passed item).append (.mark ',')
  have inside := elements.append (.quiet rfl : Declares [.mark ']', .mark ';'] [])
  have opening : Declares [.word name, .mark ':', .mark '[', .word type, .mark ';', .word (toString (items.map shown).length),
      .mark ']', .mark '=', .mark '['] [] := .quiet rfl
  exact ⟨arrayTokens name type (items.map shown), array_prints named typed each, .declaration read (opening.append inside)⟩

def columnsOf (entity : EntityModel) : Declared Column :=
  ⟨columnsName entity, entity.table.columns.length, entity.table.columns.map (·.toColumn)⟩

theorem columnLines_shows (entity : EntityModel) : Shows (columnLines entity) [.columns (columnsOf entity)] := by
  have quiet (column : Schema.Column) : Declares (columnTokens column) [] := by
    unfold columnTokens
    cases column.default <;> exact .quiet rfl
  have read : Reads declaration _ (.columns (columnsOf entity)) :=
    .left (.map Declaration.columns (array_reads column_reads fun _ => ⟨_, _, rfl⟩))
  exact .cons (.spelled rfl rfl) (array_shows (columnsName_path entity) (by decide) columnElement_splits quiet read)

def tablesOf (entities : List EntityModel) : Declared Entry := ⟨"TABLES", entities.length, entities.map entryOf⟩

theorem tableLines_shows (entities : List EntityModel) : Shows (tableLines entities) [.tables (tablesOf entities)] := by
  have read : Reads declaration _ (.tables (tablesOf entities)) :=
    .right (fun _ => rfl) (.left (.map Declaration.tables (array_reads entry_reads fun _ => ⟨_, _, rfl⟩)))
  exact .cons (.spelled rfl rfl) (array_shows (by decide) (by decide) tableElement_splits (fun _ => .quiet rfl) read)

def OneLine (text : String) : Prop := ∀ c ∈ text.toList, c ≠ '\n' ∧ c ≠ '\r'

instance (text : String) : Decidable (OneLine text) :=
  decidable_of_iff (text.toList.all (fun c => c != '\n' && c != '\r') = true) (by simp [OneLine])

private theorem joined_oneLine {text : List Char} (path : joined text = true) : ∀ c ∈ text, c ≠ '\n' ∧ c ≠ '\r' := by
  fun_induction joined text with
  | case1 => exact fun _ member => absurd member List.not_mem_nil
  | case2 rest ih => exact List.forall_mem_cons.mpr ⟨by decide, List.forall_mem_cons.mpr ⟨by decide, ih path⟩⟩
  | case3 c rest separate ih =>
    obtain ⟨own, others⟩ := Bool.and_eq_true_iff.mp path
    refine List.forall_mem_cons.mpr ⟨?_, ih others⟩
    constructor <;> rintro rfl <;> exact absurd own (by decide)

private theorem path_oneLine {name : String} (path : IsPath name) : OneLine name := joined_oneLine path.2

def accessorTokens (name : String) (index : Nat) : List Token :=
  [.word "fn", .word name, .mark '(', .mark ')', .mark '-', .mark '>', .mark '&', .word "'static", .word "TableMeta",
    .mark '\x7b', .mark '&', .word "TABLES", .mark '[', .word (toString index), .mark ']', .mark '\x7d']

private theorem accessor_reads (name : String) (index : Nat) : Reads accessor (accessorTokens name index) ⟨name, index⟩ :=
  (Reads.expect _).bind ((Reads.word name).bind ((Reads.expect _).bind ((Reads.meaning (number_toString index)).bind
    ((Reads.expect _).bind (.pure (Accessor.mk name index))))))

theorem comment_splits {before after name : String} (oneLine : OneLine name) (opened : Splits .between before [] .comment)
    (closed : Splits .comment after [] .comment) : Splits .between (before ++ name ++ after ++ "\n") [] .between :=
  .chain (.chain (.chain opened (.comment oneLine) rfl) closed rfl) (.spelled rfl) rfl

theorem blockEnd_splits : Splits .between ("\x7d" ++ "" ++ "\n") [.mark '\x7d'] .between :=
  .ended (.append (.spelled rfl) (.empty .between))

theorem blockEnd_shows : Shows ["\x7d" ++ ""] [] := .line blockEnd_splits (.quiet rfl)

private theorem accessorLines_shows {entity : EntityModel} (commented : OneLine entity.table.name) (index : Nat) :
    Shows (accessorLines index entity) [.accessor ⟨accessorName entity, index⟩] := by
  have named : "pub fn " ++ entity.snake ++ "_table() -> &'static TableMeta" =
      "pub fn " ++ accessorName entity ++ "() -> &'static TableMeta" := by
    have suffix : "_table() -> &'static TableMeta" = "_table" ++ "() -> &'static TableMeta" := rfl
    rw [suffix, accessorName, ← String.append_assoc, ← String.append_assoc]
  have opening : Splits .between ("pub fn " ++ accessorName entity ++ "() -> &'static TableMeta" ++ " \x7b" ++ "\n")
      [.word "pub", .word "fn", .word (accessorName entity), .mark '(', .mark ')', .mark '-', .mark '>', .mark '&',
        .word "'static", .word "TableMeta", .mark '\x7b'] .between := by
    apply Splits.ended
    exact .chain (.named (.spelled rfl) (accessorName_path entity) rfl rfl) (.spelled rfl) rfl
  have body : Splits .between ("&TABLES[" ++ toString index ++ "]" ++ "\n")
      [.mark '&', .word "TABLES", .mark '[', .word (toString index), .mark ']'] .between :=
    .ended (.named (.spelled rfl) (number_path index) rfl rfl)
  have printed := Prints.block opening (.single body) blockEnd_splits
  have read : Reads declaration (accessorTokens (accessorName entity) index) (.accessor ⟨accessorName entity, index⟩) :=
    .right (fun _ => rfl) (.right (fun _ => rfl) (.left (.map Declaration.accessor (accessor_reads _ index))))
  have declared : Declares (.word "pub" :: accessorTokens (accessorName entity) index) [.accessor ⟨accessorName entity, index⟩] :=
    (Declares.quiet rfl : Declares [.word "pub"] []).append (.declaration read (.quiet rfl))
  refine .cons (.line (comment_splits commented (.spelled rfl) (.spelled rfl)) .nil) ?_
  rw [named]
  exact ⟨_, printed, declared⟩

private theorem type_splits (type : FieldType) (nullable : Bool) :
    ∃ tokens, Splits .between (type.spelled nullable ++ ",") tokens .between ∧ Declares tokens [] := by
  cases nullable with
  | false => cases type <;> exact ⟨_, .append (.spelled rfl) (.spelled rfl), .quiet rfl⟩
  | true =>
    cases type <;>
      exact ⟨_, .append (.append (.append (.spelled rfl) (.spelled rfl)) (.spelled rfl)) (.spelled rfl), .quiet rfl⟩

private theorem structLines_shows {entity : EntityModel} (commented : OneLine entity.table.name)
    (path : IsPath entity.name)
    (identifiers : ∀ field ∈ entity.fields, IsPath field.identifier) : Shows (structLines entity) [] := by
  have opening : Splits .between ("pub struct " ++ entity.name ++ " \x7b" ++ "\n")
      [.word "pub", .word "struct", .word entity.name, .mark '\x7b'] .between :=
    .ended (.named (.spelled rfl) path rfl rfl)
  have fields : Shows (entity.fields.map fun field =>
      "pub " ++ field.identifier ++ ": " ++ field.type.spelled field.column.nullable ++ ",") [] := by
    refine .map fun field member => ?_
    obtain ⟨tokens, typed, passed⟩ := type_splits field.type field.column.nullable
    have named : Splits .between ("pub " ++ field.identifier ++ ": ") [.word "pub", .word field.identifier, .mark ':'] .between :=
      .named (.spelled rfl) (identifiers field member) rfl rfl
    have whole := named.append typed
    rw [← String.append_assoc] at whole
    exact .line whole.ended ((Declares.quiet rfl : Declares [.word "pub", .word field.identifier, .mark ':'] []).append passed)
  refine .cons (.line (comment_splits commented (.spelled rfl) (.spelled rfl)) .nil) (.cons (.spelled rfl rfl) ?_)
  exact .block (.line opening (.quiet rfl)) fields blockEnd_shows

def readingOf (field : FieldModel) : Reading := ⟨field.identifier, field.column.nullable, field.column.name⟩

def readingTokens (field : FieldModel) : List Token :=
  [.word field.identifier, .mark ':', .word "row", .mark '.', .word (if field.column.nullable then "optional" else "required"),
    .mark '(', .text field.column.name, .mark ')', .mark '?']

private theorem reading_reads (field : FieldModel) : Reads reading (readingTokens field) (readingOf field) := by
  have getter : getter? (if field.column.nullable then "optional" else "required") = some field.column.nullable := by
    cases field.column.nullable <;> rfl
  exact (Reads.word field.identifier).bind ((Reads.expect _).bind ((Reads.meaning getter).bind ((Reads.expect _).bind
    ((Reads.text field.column.name).bind ((Reads.expect _).bind (.pure (readingOf field)))))))

private theorem readerElement_splits {field : FieldModel} (path : IsPath field.identifier) :
    Splits .between (readerElement field ++ "\n") (readingTokens field ++ [.mark ',']) .between := by
  have getter : IsPath (if field.column.nullable then "optional" else "required") := by
    split <;> decide
  have row : Splits .between (field.identifier ++ ": row.") [.word field.identifier, .mark ':', .word "row", .mark '.'] .between :=
    .chain path.splits (.behind rfl) rfl
  apply Splits.ended
  exact .quoted (.named row getter rfl rfl) rfl rfl

def implTokens (entity : EntityModel) : List Token :=
  [.word "impl", .word "RowMapper", .mark '<', .word entity.name, .mark '>', .word "for", .word (mapperName entity.name),
    .mark '\x7b']

def mapTokens (entity : EntityModel) : List Token :=
  [.word "fn", .word "map", .mark '(', .mark '&', .word "self", .mark ',', .word "row", .mark ':', .mark '&', .word "DataRow",
    .mark ')', .mark '-', .mark '>', .word "Result", .mark '<', .word entity.name, .mark ',', .word "MapError", .mark '>',
    .mark '\x7b']

def resultTokens (entity : EntityModel) : List Token :=
  [.word "Ok", .mark '(', .word entity.name, .mark '\x7b']

def fieldTokens (fields : List FieldModel) : List Token := fields.flatMap fun field => readingTokens field ++ [.mark ',']

def mapperTokens (entity : EntityModel) : List Token :=
  implTokens entity ++ (mapTokens entity ++ (resultTokens entity ++ (fieldTokens entity.fields ++
    [.mark '\x7d', .mark ')', .mark '\x7d', .mark '\x7d'])))

def mapperOf (entity : EntityModel) : Mapper := ⟨entity.name, mapperName entity.name, entity.fields.map readingOf⟩

private theorem mapper_reads (entity : EntityModel) : Reads mapper (mapperTokens entity) (mapperOf entity) := by
  have fields : Reads (list '\x7d' reading) (fieldTokens entity.fields ++ [.mark '\x7d']) (entity.fields.map readingOf) :=
    .list '\x7d' (fun field _ => reading_reads field) fun _ _ => ⟨_, _, rfl⟩
  have closing : fieldTokens entity.fields ++ [.mark '\x7d', .mark ')', .mark '\x7d', .mark '\x7d'] =
      fieldTokens entity.fields ++ [.mark '\x7d'] ++ ([.mark ')', .mark '\x7d', .mark '\x7d'] ++ []) := by
    rw [List.append_assoc]
    rfl
  rw [mapperTokens, closing]
  exact (Reads.expect _).bind ((Reads.word entity.name).bind ((Reads.expect _).bind ((Reads.word (mapperName entity.name)).bind
    ((Reads.expect _).bind (fields.bind ((Reads.expect _).bind (.pure (mapperOf entity))))))))

private theorem mapper_prints {entity : EntityModel} (path : IsPath entity.name)
    (identifiers : ∀ field ∈ entity.fields, IsPath field.identifier) :
    Prints (Code.block ("impl RowMapper<" ++ entity.name ++ "> for " ++ mapperName entity.name)
      (Code.block ("fn map(&self, row: &DataRow) -> Result<" ++ entity.name ++ ", MapError>")
        (Code.block ("Ok(" ++ entity.name) (entity.fields.map readerElement) ")") "") "") (mapperTokens entity) := by
  have outer : Splits .between ("impl RowMapper<" ++ entity.name ++ "> for " ++ mapperName entity.name ++ " \x7b" ++ "\n")
      (implTokens entity) .between := by
    apply Splits.ended
    exact .named (.named (.spelled rfl) path rfl rfl) (mapperName_path path) rfl rfl
  have middle : Splits .between ("fn map(&self, row: &DataRow) -> Result<" ++ entity.name ++ ", MapError>" ++ " \x7b" ++ "\n")
      (mapTokens entity) .between := by
    apply Splits.ended
    exact .chain (.named (.spelled rfl) path rfl rfl) (.spelled rfl) rfl
  have inner : Splits .between ("Ok(" ++ entity.name ++ " \x7b" ++ "\n") (resultTokens entity) .between :=
    .ended (.named (.spelled rfl) path rfl rfl)
  have closing : Splits .between ("\x7d" ++ ")" ++ "\n") [.mark '\x7d', .mark ')'] .between :=
    .ended (.append (.spelled rfl) (.spelled rfl))
  have readers : Prints (entity.fields.map readerElement) (fieldTokens entity.fields) :=
    .map fun field member => readerElement_splits (identifiers field member)
  have printed := Prints.block outer (.block middle (.block inner readers closing) blockEnd_splits) blockEnd_splits
  simp only [List.append_assoc] at printed
  exact printed

private theorem mapper_declares (entity : EntityModel) : Declares (mapperTokens entity) [.mapper (mapperOf entity)] := by
  have read : Reads declaration (mapperTokens entity) (.mapper (mapperOf entity)) :=
    .right (fun _ => rfl) (.right (fun _ => rfl) (.right (fun _ => rfl) (.map Declaration.mapper (mapper_reads entity))))
  have fields : Declares (fieldTokens entity.fields) [] := .flatMap fun field _ => .quiet rfl
  have closing : Declares [.mark '\x7d', .mark ')', .mark '\x7d', .mark '\x7d'] [] := .quiet rfl
  have result : Declares (resultTokens entity) [] := .quiet rfl
  have map : Declares (mapTokens entity) [] := .skip (fun _ => rfl) (.quiet rfl)
  have opening : Declares (implTokens entity).tail [] := .quiet rfl
  exact .declaration read (opening.append (map.append (result.append (fields.append closing))))

private theorem mapperLines_shows {entity : EntityModel} (commented : OneLine entity.table.name)
    (path : IsPath entity.name)
    (identifiers : ∀ field ∈ entity.fields, IsPath field.identifier) :
    Shows (mapperLines entity) [.mapper (mapperOf entity)] := by
  have comment : Splits .between ("/// Maps rows of table \x60" ++ entity.table.name ++ "\x60 into [\x60" ++ entity.name ++
      "\x60]." ++ "\n") [] .between := by
    have opened : Splits .between ("/// Maps rows of table \x60" ++ entity.table.name) [] .comment :=
      .append (.spelled rfl) (.comment commented)
    exact comment_splits (path_oneLine path) (opened.append (.spelled rfl)) (.spelled rfl)
  have struct : Splits .between ("pub struct " ++ mapperName entity.name ++ ";" ++ "\n")
      [.word "pub", .word "struct", .word (mapperName entity.name), .mark ';'] .between :=
    .ended (.named (.spelled rfl) (mapperName_path path) rfl rfl)
  have declared : Shows _ [.mapper (mapperOf entity)] := ⟨_, mapper_prints path identifiers, mapper_declares entity⟩
  refine .cons (.line comment .nil) (.cons (.spelled rfl rfl) ?_)
  exact .cons (.line struct (.quiet rfl)) (.cons (.spelled rfl rfl) declared)

private theorem entityImplLines_shows {entity : EntityModel} (path : IsPath entity.name) :
    Shows (entityImplLines entity) [] := by
  have opening : Splits .between ("impl Entity for " ++ entity.name ++ " \x7b" ++ "\n")
      [.word "impl", .word "Entity", .word "for", .word entity.name, .mark '\x7b'] .between :=
    .ended (.named (.spelled rfl) path rfl rfl)
  have constant : Splits .between ("    const TYPE_ID: &'static str = " ++ Text.literal entity.table.typeId ++ ";" ++ "\n")
      [.word "const", .word "TYPE_ID", .mark ':', .mark '&', .word "'static", .word "str", .mark '=', .text entity.table.typeId,
        .mark ';'] .between :=
    .ended (.quoted (.spelled rfl) rfl rfl)
  have signature : Splits .between ("fn from_row(row: &DataRow) -> Result<Self, MapError>" ++ " \x7b" ++ "\n")
      [.word "fn", .word "from_row", .mark '(', .word "row", .mark ':', .mark '&', .word "DataRow", .mark ')', .mark '-', .mark '>',
        .word "Result", .mark '<', .word "Self", .mark ',', .word "MapError", .mark '>', .mark '\x7b'] .between :=
    .ended (.chain (.spelled rfl) (.spelled rfl) rfl)
  have body : Splits .between (mapperName entity.name ++ ".map(row)" ++ "\n")
      [.word (mapperName entity.name), .mark '.', .word "map", .mark '(', .word "row", .mark ')'] .between :=
    .ended (.chain (mapperName_path path).splits (.behind rfl) rfl)
  have function := Shows.block (.line signature (.skip (fun _ => rfl) (.quiet rfl))) (.line body (.quiet rfl)) blockEnd_shows
  have front : Shows ["impl Entity for " ++ entity.name ++ " \x7b",
      "    const TYPE_ID: &'static str = " ++ Text.literal entity.table.typeId ++ ";", ""] [] :=
    .cons (.line opening (.skip (fun _ => rfl) (.quiet rfl))) (.cons (.line constant (.quiet rfl)) (.spelled rfl rfl))
  have ending : Shows ["\x7d"] [] := .spelled rfl rfl
  exact (front.append function.indented).append ending

theorem entityLines_shows {entity : EntityModel} (commented : OneLine entity.table.name) (path : IsPath entity.name)
    (identifiers : ∀ field ∈ entity.fields, IsPath field.identifier) (index : Nat) :
    Shows (entityLines index entity) [.accessor ⟨accessorName entity, index⟩, .mapper (mapperOf entity)] := by
  have blank : Shows [""] [] := .spelled rfl rfl
  have front := (blank.append (accessorLines_shows commented index)).append blank
  have middle := (front.append (structLines_shows commented path identifiers)).append blank
  exact ((middle.append (mapperLines_shows commented path identifiers)).append blank).append (entityImplLines_shows path)

set_option maxRecDepth 2000 in
theorem registryLines_shows : Shows registryLines [] := by
  have implementation : Shows ["impl OrmRegistry for GeneratedRegistry" ++ " \x7b"] [] :=
    .line (.ended (.chain (.spelled rfl) (.spelled rfl) rfl)) (.skip (fun _ => rfl) (.quiet rfl))
  have tables : Shows ["fn tables(&self) -> &[TableMeta]" ++ " \x7b"] [] :=
    .line (.ended (.chain (.spelled rfl) (.spelled rfl) rfl)) (.skip (fun _ => rfl) (.quiet rfl))
  have install : Splits .between ("pub fn init() -> Result<(), RegistryError>" ++ " \x7b" ++ "\n")
      [.word "pub", .word "fn", .word "init", .mark '(', .mark ')', .mark '-', .mark '>', .word "Result", .mark '<', .mark '(',
        .mark ')', .mark ',', .word "RegistryError", .mark '>', .mark '\x7b'] .between :=
    .ended (.chain (.spelled rfl) (.spelled rfl) rfl)
  have declared : Shows ["", "/// Registry over every generated table.", "#[derive(Debug, Clone, Copy, Default)]",
      "pub struct GeneratedRegistry;", ""] [] :=
    .cons (.spelled rfl rfl) (.cons (.spelled rfl rfl) (.cons (.spelled rfl rfl) (.cons (.spelled rfl rfl) (.spelled rfl rfl))))
  have documented : Shows ["", "/// Installs [\x60GeneratedRegistry\x60] as the process-wide registry.", "///", "/// # Errors", "///",
      "/// Fails if a registry is already installed."] [] :=
    .cons (.spelled rfl rfl) (.cons (.spelled rfl rfl) (.cons (.spelled rfl rfl) (.cons (.spelled rfl rfl)
      (.cons (.spelled rfl rfl) (.spelled rfl rfl)))))
  have registry := Shows.block implementation (.block tables (.spelled rfl rfl : Shows ["&TABLES"] []) blockEnd_shows) blockEnd_shows
  have passed : Declares [.word "pub", .word "fn", .word "init", .mark '(', .mark ')', .mark '-', .mark '>', .word "Result", .mark '<',
      .mark '(', .mark ')', .mark ',', .word "RegistryError", .mark '>', .mark '\x7b'] [] :=
    (Declares.quiet rfl : Declares [.word "pub"] []).append (.skip (fun _ => rfl) (.quiet rfl))
  have init := Shows.block (.line install passed) (.spelled rfl rfl : Shows ["install(&GeneratedRegistry)"] []) blockEnd_shows
  exact ((declared.append registry).append documented).append init

end Source

end Relmap
