import Relmap.Proofs.SourceTokens
import Relmap.Table

/-! What a source declares, read off its tokens: arrays of columns and of tables, functions that give one of the tables,
and mappers from rows to entities. Other items are passed over. -/

namespace Relmap.Source

abbrev Reader (α : Type) := StateT (List Token) Option α

def expect (wanted : List Token) : Reader Unit := fun tokens =>
  if wanted.isPrefixOf tokens then some ((), tokens.drop wanted.length) else none

def word : Reader String
  | .word spelling :: rest => some (spelling, rest)
  | _ => none

def text : Reader String
  | .text content :: rest => some (content, rest)
  | _ => none

def meaning {α : Type} (of : String → Option α) : Reader α := do
  let spelling ← word
  StateT.lift (of spelling)

def truth? : String → Option Bool
  | "true" => some true
  | "false" => some false
  | _ => none

def affinity? : String → Option Affinity
  | "Affinity::Integer" => some .integer
  | "Affinity::Real" => some .real
  | "Affinity::Text" => some .text
  | "Affinity::Blob" => some .blob
  | "Affinity::Numeric" => some .numeric
  | "Affinity::Unknown" => some .unknown
  | _ => none

def number? (spelling : String) : Option Nat :=
  if spelling ≠ "" ∧ spelling.toList.all Char.isDigit = true then some (Nat.ofDigitChars 10 spelling.toList 0) else none

def ordinal? (spelling : String) : Option UInt32 :=
  (number? spelling).bind fun n => if n < UInt32.size then some (UInt32.ofNat n) else none

/-- How a mapper asks for a cell, by whether it may be missing. -/
def getter? : String → Option Bool
  | "optional" => some true
  | "required" => some false
  | _ => none

def default : Reader (Option String) :=
  (do expect [.word "None"]
      return none) <|>
  (do expect [.word "Some", .mark '(']
      let expression ← text
      expect [.mark ')']
      return some expression)

def column : Reader Column := do
  expect [.word "ColumnMeta::new", .mark '(']
  let name ← text
  expect [.mark ',']
  let affinity ← meaning affinity?
  expect [.mark ',']
  let nullable ← meaning truth?
  expect [.mark ',']
  let default ← default
  expect [.mark ',']
  let keyOrdinal ← meaning ordinal?
  expect [.mark ',']
  let autoIncrement ← meaning truth?
  expect [.mark ')']
  return { name, affinity, nullable, default, keyOrdinal, autoIncrement }

structure Entry where
  name : String
  typeId : String
  columns : String

def entry : Reader Entry := do
  expect [.word "TableMeta::new", .mark '(']
  let name ← text
  expect [.mark ',']
  let typeId ← text
  expect [.mark ',', .mark '&']
  let columns ← word
  expect [.mark ')']
  return { name, typeId, columns }

structure Reading where
  identifier : String
  optional : Bool
  column : String

def reading : Reader Reading := do
  let identifier ← word
  expect [.mark ':', .word "row", .mark '.']
  let optional ← meaning getter?
  expect [.mark '(']
  let column ← text
  expect [.mark ')', .mark '?']
  return { identifier, optional, column }

/-- Elements with a comma behind each, up to a mark. The bound is on how many there may be. -/
def elements {α : Type} (close : Char) (read : Reader α) : Nat → Reader (List α)
  | 0 => failure
  | bound + 1 =>
    (do expect [.mark close]
        return []) <|>
    (do let first ← read
        expect [.mark ',']
        let others ← elements close read bound
        return first :: others)

def list {α : Type} (close : Char) (read : Reader α) : Reader (List α) := fun tokens =>
  elements close read tokens.length tokens

structure Declared (α : Type) where
  name : String
  length : Nat
  elements : List α

def array {α : Type} (type : String) (read : Reader α) : Reader (Declared α) := do
  expect [.word "static"]
  let name ← word
  expect [.mark ':', .mark '[', .word type, .mark ';']
  let length ← meaning number?
  expect [.mark ']', .mark '=', .mark '[']
  let elements ← list ']' read
  expect [.mark ';']
  return { name, length, elements }

structure Accessor where
  name : String
  index : Nat

def accessor : Reader Accessor := do
  expect [.word "fn"]
  let name ← word
  expect [.mark '(', .mark ')', .mark '-', .mark '>', .mark '&', .word "'static", .word "TableMeta", .mark '\x7b',
    .mark '&', .word "TABLES", .mark '[']
  let index ← meaning number?
  expect [.mark ']', .mark '\x7d']
  return { name, index }

structure Mapper where
  entity : String
  name : String
  fields : List Reading

def mapper : Reader Mapper := do
  expect [.word "impl", .word "RowMapper", .mark '<']
  let entity ← word
  expect [.mark '>', .word "for"]
  let name ← word
  expect [.mark '\x7b', .word "fn", .word "map", .mark '(', .mark '&', .word "self", .mark ',', .word "row", .mark ':',
    .mark '&', .word "DataRow", .mark ')', .mark '-', .mark '>', .word "Result", .mark '<', .word entity, .mark ',',
    .word "MapError", .mark '>', .mark '\x7b', .word "Ok", .mark '(', .word entity, .mark '\x7b']
  let fields ← list '\x7d' reading
  expect [.mark ')', .mark '\x7d', .mark '\x7d']
  return { entity, name, fields }

inductive Declaration where
  | columns (array : Declared Column)
  | tables (array : Declared Entry)
  | accessor (function : Accessor)
  | mapper (mapper : Mapper)

def declaration : Reader Declaration :=
  (.columns <$> array "ColumnMeta" column) <|> (.tables <$> array "TableMeta" entry) <|> (.accessor <$> accessor)
    <|> (.mapper <$> mapper)

/-- All declarations, wherever they begin. -/
def declarations : List Token → List Declaration
  | [] => []
  | token :: rest =>
    match declaration (token :: rest) with
    | some (found, _) => found :: declarations rest
    | none => declarations rest

/-- What is read, whatever comes behind. -/
def Reads {α : Type} (reader : Reader α) (tokens : List Token) (value : α) : Prop :=
  ∀ rest, reader (tokens ++ rest) = some (value, rest)

namespace Reads

variable {α β : Type} {reader other : Reader α} {tokens more : List Token} {value : α}

theorem pure (value : α) : Reads (pure value) [] value := fun _ => rfl

theorem bind {next : α → Reader β} {result : β} (first : Reads reader tokens value) (second : Reads (next value) more result) :
    Reads (reader >>= next) (tokens ++ more) result := by
  intro rest
  change (reader (tokens ++ more ++ rest)).bind (fun state => next state.1 state.2) = _
  rw [List.append_assoc, first, Option.bind_some, second]

theorem map (f : α → β) (read : Reads reader tokens value) : Reads (f <$> reader) tokens (f value) := by
  intro rest
  change (reader (tokens ++ rest)).bind (fun state => some (f state.1, state.2)) = _
  rw [read, Option.bind_some]

theorem left (read : Reads reader tokens value) : Reads (reader <|> other) tokens value := by
  intro rest
  change (reader (tokens ++ rest) <|> other (tokens ++ rest)) = _
  rw [read]
  rfl

theorem right (fails : ∀ rest, reader (tokens ++ rest) = none) (read : Reads other tokens value) :
    Reads (reader <|> other) tokens value := by
  intro rest
  change (reader (tokens ++ rest) <|> other (tokens ++ rest)) = _
  rw [fails, read]
  rfl

theorem expect (wanted : List Token) : Reads (expect wanted) wanted () := by
  intro rest
  have begins : wanted.isPrefixOf (wanted ++ rest) = true := List.isPrefixOf_iff_prefix.mpr (List.prefix_append _ _)
  rw [Source.expect, if_pos begins, List.drop_left]

theorem word (spelling : String) : Reads word [.word spelling] spelling := fun _ => rfl

theorem text (content : String) : Reads text [.text content] content := fun _ => rfl

theorem meaning {of : String → Option α} {spelling : String} (own : of spelling = some value) :
    Reads (meaning of) [.word spelling] value := by
  intro rest
  change ((of spelling).bind fun value => some (value, rest)) = _
  rw [own, Option.bind_some]

theorem elements {items : List β} {shown : β → List Token} {of : β → α} (close : Char)
    (each : ∀ item ∈ items, Reads reader (shown item) (of item))
    (begins : ∀ item ∈ items, ∃ spelling rest, shown item = .word spelling :: rest) {bound : Nat} (enough : items.length < bound) :
    Reads (elements close reader bound) (items.flatMap (shown · ++ [.mark ',']) ++ [.mark close]) (items.map of) := by
  induction items generalizing bound with
  | nil =>
    obtain ⟨bound, rfl⟩ := Nat.exists_eq_succ_of_ne_zero (Nat.ne_of_gt enough)
    exact left ((expect [.mark close]).bind (pure []))
  | cons item items ih =>
    obtain ⟨bound, rfl⟩ := Nat.exists_eq_succ_of_ne_zero (Nat.ne_of_gt (Nat.zero_lt_of_lt enough))
    obtain ⟨own, others⟩ := List.forall_mem_cons.mp each
    obtain ⟨⟨spelling, behind, form⟩, later⟩ := List.forall_mem_cons.mp begins
    have rest := ih others later (Nat.lt_of_succ_lt_succ enough)
    have arranged : (item :: items).flatMap (shown · ++ [.mark ',']) ++ [.mark close] =
        shown item ++ ([.mark ','] ++ (items.flatMap (shown · ++ [.mark ',']) ++ [.mark close] ++ [])) := by
      simp
    rw [arranged]
    refine right (fun rest => ?_) (own.bind ((expect [.mark ',']).bind (rest.bind (pure (of item :: items.map of)))))
    rw [form]
    rfl

private theorem length_elements (shown : β → List Token) (items : List β) :
    items.length ≤ (items.flatMap fun item => shown item ++ [.mark ',']).length := by
  induction items with
  | nil => exact Nat.le_refl 0
  | cons item items ih =>
    simp only [List.flatMap_cons, List.length_append, List.length_cons, List.length_nil]
    omega

theorem list {items : List β} {shown : β → List Token} {of : β → α} (close : Char)
    (each : ∀ item ∈ items, Reads reader (shown item) (of item))
    (begins : ∀ item ∈ items, ∃ spelling rest, shown item = .word spelling :: rest) :
    Reads (list close reader) (items.flatMap (shown · ++ [.mark ',']) ++ [.mark close]) (items.map of) := by
  intro rest
  have enough : items.length < (items.flatMap (fun item => shown item ++ [Token.mark ',']) ++ [Token.mark close] ++ rest).length := by
    have own := length_elements shown items
    simp only [List.length_append, List.length_cons, List.length_nil]
    omega
  exact elements close each begins enough rest

end Reads

theorem number_toString (n : Nat) : number? (toString n) = some n := by
  have all : (Nat.toDigits 10 n).all Char.isDigit = true :=
    List.all_eq_true.mpr fun _ member => Nat.isDigit_of_mem_toDigits (by decide) (by decide) member
  rw [number?, number_toList, if_pos ⟨(number_path n).1, all⟩, Nat.ofDigitChars_toDigits (by decide) (by decide)]

theorem ordinal_toString (ordinal : UInt32) : ordinal? (toString ordinal.toNat) = some ordinal := by
  have small : ordinal.toNat < UInt32.size := ordinal.toNat_lt_size
  rw [ordinal?, number_toString, Option.bind_some, if_pos small, UInt32.ofNat_toNat]

theorem bind_fails {α β : Type} {reader : Reader α} {tokens : List Token} (fails : reader tokens = none) (next : α → Reader β) :
    (reader >>= next) tokens = none := by
  change (reader tokens).bind (fun state => next state.1 state.2) = none
  rw [fails, Option.bind_none]

theorem map_fails {α β : Type} {reader : Reader α} {tokens : List Token} (fails : reader tokens = none) (f : α → β) :
    (f <$> reader) tokens = none := by
  change (reader tokens).bind (fun state => some (f state.1, state.2)) = none
  rw [fails, Option.bind_none]

private theorem declaration_fails {tokens : List Token} (noArray : expect [.word "static"] tokens = none)
    (noAccessor : expect [.word "fn"] tokens = none)
    (noMapper : expect [.word "impl", .word "RowMapper", .mark '<'] tokens = none) : declaration tokens = none := by
  have columns : (Declaration.columns <$> array "ColumnMeta" column) tokens = none := map_fails (bind_fails noArray _) _
  have tables : (Declaration.tables <$> array "TableMeta" entry) tokens = none := map_fails (bind_fails noArray _) _
  have accessors : (Declaration.accessor <$> accessor) tokens = none := map_fails (bind_fails noAccessor _) _
  have mappers : (Declaration.mapper <$> mapper) tokens = none := map_fails (bind_fails noMapper _) _
  change ((Declaration.columns <$> array "ColumnMeta" column) tokens <|> (Declaration.tables <$> array "TableMeta" entry) tokens
    <|> (Declaration.accessor <$> accessor) tokens <|> (Declaration.mapper <$> mapper) tokens) = none
  rw [columns, tables, accessors, mappers]
  rfl

def Declares (tokens : List Token) (found : List Declaration) : Prop :=
  ∀ rest, declarations (tokens ++ rest) = found ++ declarations rest

namespace Declares

theorem nil : Declares [] [] := fun _ => rfl

theorem append {tokens more : List Token} {found others : List Declaration} (one : Declares tokens found)
    (other : Declares more others) : Declares (tokens ++ more) (found ++ others) := by
  intro rest
  rw [List.append_assoc, one, other, List.append_assoc]

theorem flatMap {α : Type} {shown : α → List Token} {items : List α} (each : ∀ item ∈ items, Declares (shown item) []) :
    Declares (items.flatMap shown) [] := by
  induction items with
  | nil => exact nil
  | cons item items ih =>
    obtain ⟨own, others⟩ := List.forall_mem_cons.mp each
    exact own.append (ih others)

theorem all (tokens : List Token) {found : List Declaration} (own : Declares tokens found) : declarations tokens = found := by
  have whole := own []
  rwa [List.append_nil, declarations, List.append_nil] at whole

theorem declaration {first : Token} {inner : List Token} {found : Declaration} (read : Reads declaration (first :: inner) found)
    (within : Declares inner []) : Declares (first :: inner) [found] := by
  intro rest
  rw [List.cons_append, declarations, ← List.cons_append, read rest, within rest]
  rfl

theorem none {first : Token} (starts : ∀ rest, Source.declaration (first :: rest) = none) : Declares [first] [] := by
  intro rest
  rw [List.singleton_append, declarations, starts]
  rfl

theorem mark (c : Char) : Declares [.mark c] [] := none fun _ => rfl

theorem text (content : String) : Declares [.text content] [] := none fun _ => rfl

theorem word {spelling : String} (other : spelling ∉ ["static", "fn", "impl"]) : Declares [.word spelling] [] := by
  simp only [List.mem_cons, List.not_mem_nil, or_false, not_or] at other
  obtain ⟨noStatic, noFn, noImpl⟩ := other
  refine none fun rest => ?_
  have array : expect [.word "static"] (.word spelling :: rest) = Option.none := by
    simp [expect, Ne.symm noStatic]
  have accessor : expect [.word "fn"] (.word spelling :: rest) = Option.none := by
    simp [expect, Ne.symm noFn]
  have mapper : expect [.word "impl", .word "RowMapper", .mark '<'] (.word spelling :: rest) = Option.none := by
    simp [expect, Ne.symm noImpl]
  exact declaration_fails array accessor mapper

theorem marked (spelling : String) (c : Char) : Declares [.word spelling, .mark c] [] := by
  by_cases other : spelling ∈ ["static", "fn", "impl"]
  · have starts : ∀ rest, Source.declaration (.word spelling :: .mark c :: rest) = Option.none := by
      intro rest
      simp only [List.mem_cons, List.not_mem_nil, or_false] at other
      rcases other with rfl | rfl | rfl <;> rfl
    intro rest
    rw [List.cons_append, declarations, ← List.cons_append, List.cons_append, List.cons_append, List.nil_append, starts]
    exact mark c rest
  · exact (word other).append (mark c)

theorem skip {first : Token} {inner : List Token} (starts : ∀ rest, Source.declaration (first :: (inner ++ rest)) = Option.none)
    (within : Declares inner []) : Declares (first :: inner) [] := by
  intro rest
  rw [List.cons_append, declarations, starts]
  exact within rest

end Declares

/-- Tokens among which no declaration begins, seen without reading them. -/
def quiet : List Token → Bool
  | [] => true
  | .word _ :: .mark _ :: rest => quiet rest
  | .word spelling :: rest => spelling != "static" && spelling != "fn" && spelling != "impl" && quiet rest
  | _ :: rest => quiet rest

theorem Declares.quiet {tokens : List Token} (own : quiet tokens = true) : Declares tokens [] := by
  fun_induction Source.quiet tokens with
  | case1 => exact nil
  | case2 spelling c rest ih => exact (marked spelling c).append (ih own)
  | case3 spelling rest alone ih =>
    simp only [Bool.and_eq_true, bne_iff_ne] at own
    obtain ⟨⟨⟨noStatic, noFn⟩, noImpl⟩, others⟩ := own
    exact (word (by simp [noStatic, noFn, noImpl])).append (ih others)
  | case4 first rest noMarked noWord ih =>
    cases first with
    | word spelling => exact absurd rfl (noWord spelling)
    | text content => exact (text content).append (ih own)
    | mark c => exact (mark c).append (ih own)

/-- Lines that hold these declarations and nothing that is none. -/
def Shows (lines : List String) (found : List Declaration) : Prop :=
  ∃ tokens, Prints lines tokens ∧ Declares tokens found

namespace Shows

theorem nil : Shows [] [] := ⟨[], .nil, .nil⟩

theorem append {first second : List String} {found others : List Declaration} (one : Shows first found)
    (other : Shows second others) : Shows (first ++ second) (found ++ others) := by
  obtain ⟨leading, printed, declares⟩ := one
  obtain ⟨trailing, behind, more⟩ := other
  exact ⟨leading ++ trailing, printed.append behind, declares.append more⟩

theorem cons {line : String} {lines : List String} {found : List Declaration} (one : Shows [line] []) (other : Shows lines found) :
    Shows (line :: lines) found := one.append other

theorem flatMap {α : Type} {lines : α → List String} {found : α → List Declaration} {items : List α}
    (each : ∀ item ∈ items, Shows (lines item) (found item)) : Shows (items.flatMap lines) (items.flatMap found) := by
  induction items with
  | nil => exact nil
  | cons item items ih =>
    obtain ⟨own, others⟩ := List.forall_mem_cons.mp each
    exact own.append (ih others)

theorem map {α : Type} {line : α → String} {items : List α} (each : ∀ item ∈ items, Shows [line item] []) :
    Shows (items.map line) [] := by
  induction items with
  | nil => exact nil
  | cons item items ih =>
    obtain ⟨own, others⟩ := List.forall_mem_cons.mp each
    exact own.append (ih others)

theorem indented {lines : List String} {found : List Declaration} (shown : Shows lines found) :
    Shows (Code.indented lines) found := by
  obtain ⟨tokens, printed, declares⟩ := shown
  exact ⟨tokens, printed.indented, declares⟩

theorem line {line : String} {tokens : List Token} (own : Splits .between (line ++ "\n") tokens .between)
    (passed : Declares tokens []) : Shows [line] [] := ⟨tokens, .single own, passed⟩

/-- For lines that are spelled out. -/
theorem spelled {line : List Char} {tokens : List Token} (own : split .between (line ++ ['\n']) = (.between, tokens))
    (passed : quiet tokens = true) : Shows [String.ofList line] [] := by
  refine Shows.line ?_ (.quiet passed)
  rw [Splits, String.toList_append, String.toList_ofList]
  exact own

theorem block {opening closing : String} {lines : List String} (opened : Shows [opening ++ " \x7b"] []) (within : Shows lines [])
    (closed : Shows ["\x7d" ++ closing] []) : Shows (Code.block opening lines closing) [] :=
  opened.append (within.indented.append closed)

end Shows

end Relmap.Source
