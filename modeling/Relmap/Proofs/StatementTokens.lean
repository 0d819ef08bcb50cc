import Relmap.Scan
import Relmap.Text.Lexis
import Relmap.Text.Mention
import Relmap.Statement.Fragment
import Mathlib.Data.List.Chain

/-! How a database takes the text of a statement apart. A text that was put together from pieces is
read as the tokens of these pieces, whatever characters the names contain. -/

namespace Relmap

/-- The words and marks of a statement. A slot carries what stands in it, which in a text is nothing. -/
inductive Token (α : Type) where
  | word (capitals : String)
  | name (content : String)
  | literal (content : String)
  | number (digits : String)
  | mark (symbol : String)
  | slot (content : α)
  deriving DecidableEq

namespace Token

variable {α β : Type}

def map (f : α → β) : Token α → Token β
  | .word capitals => .word capitals
  | .name content => .name content
  | .literal content => .literal content
  | .number digits => .number digits
  | .mark symbol => .mark symbol
  | .slot content => .slot (f content)

def name? : Token α → Option String
  | .name content => some content
  | _ => none

def slot? : Token α → Option α
  | .slot content => some content
  | _ => none

def emptied (token : Token α) : Token Unit := token.map fun _ => ()

def doubleMarks : List (List Char) :=
  [['<', '>'], ['<', '='], ['>', '='], ['=', '='], ['!', '='], ['|', '|'], ['<', '<'], ['>', '>']]

/-- White space and comments are no tokens. A quote that is not closed cannot be read. -/
def read : PartReader Char (Option (Token Unit)) := fun c behind =>
  if Text.isSpace c then some (none, 0)
  else if c == '-' && behind.head? == some '-' then some (none, runLength (· != '\n') behind)
  else if c == '/' && behind.head? == some '*' then some (none, 1 + Text.blockLength (behind.drop 1))
  else if c == '"' then
    (Text.quotedContent c behind).map fun (content, length) => (some (.name (String.ofList content)), length)
  else if c == '\'' then
    (Text.quotedContent c behind).map fun (content, length) => (some (.literal (String.ofList content)), length)
  else if c == '?' then some (some (.slot ()), 0)
  else if Text.isWordStart c then
    let length := runLength Text.isWordPart behind
    some (some (.word (String.ofList (Text.upper (c :: behind.take length)))), length)
  else if c.isDigit then
    let length := runLength Char.isDigit behind
    some (some (.number (String.ofList (c :: behind.take length))), length)
  else if doubleMarks.contains (c :: behind.take 1) then
    some (some (.mark (String.ofList (c :: behind.take 1))), 1)
  else some (some (.mark (String.singleton c)), 0)

def ofText (text : List Char) : Option (List (Token Unit)) :=
  (scanAll read text).map fun parts => parts.filterMap id

/-- The slots of a text filled from left to right. No slot may stay empty and nothing may be left. -/
def fill : List (Token Unit) → List α → Option (List (Token α))
  | [], [] => some []
  | [], _ :: _ => none
  | .slot _ :: _, [] => none
  | .slot _ :: tokens, content :: contents => (fill tokens contents).map (.slot content :: ·)
  | .word capitals :: tokens, contents => (fill tokens contents).map (.word capitals :: ·)
  | .name content :: tokens, contents => (fill tokens contents).map (.name content :: ·)
  | .literal content :: tokens, contents => (fill tokens contents).map (.literal content :: ·)
  | .number digits :: tokens, contents => (fill tokens contents).map (.number digits :: ·)
  | .mark symbol :: tokens, contents => (fill tokens contents).map (.mark symbol :: ·)

theorem fill_emptied (tokens : List (Token α)) :
    fill (tokens.map emptied) (tokens.filterMap slot?) = some tokens := by
  induction tokens with
  | nil => rfl
  | cons token tokens ih => cases token <;> simp [emptied, map, slot?, fill, List.filterMap_cons, ih]

theorem ofText_nil : ofText [] = some [] := by
  rw [ofText, scanAll_nil]
  rfl

theorem ofText_cons {c : Char} {behind : List Char} {token : Option (Token Unit)} {length : Nat}
    (part : read c behind = some (token, length)) :
    ofText (c :: behind) = (ofText (behind.drop length)).map (token.toList ++ ·) := by
  rw [ofText, scanAll_cons, part, Option.bind_some, Option.map_map, ofText, Option.map_map]
  cases token <;> rfl

@[simp] theorem ofText_blank (rest : List Char) : ofText (' ' :: rest) = ofText rest := by
  have part : read ' ' rest = some (none, 0) := by simp [read, Text.isSpace]
  rw [ofText_cons part]
  simp

@[simp] theorem ofText_slot (rest : List Char) : ofText ('?' :: rest) = (ofText rest).map (.slot () :: ·) := by
  have part : read '?' rest = some (some (.slot ()), 0) := by simp [read, Text.isSpace]
  rw [ofText_cons part]
  rfl

private theorem taken_run (belongs : Char → Bool) (text : List Char) :
    text.take (runLength belongs text) = text.takeWhile belongs :=
  (List.prefix_iff_eq_take.mp (List.takeWhile_prefix belongs)).symm

private theorem dropped_run (belongs : Char → Bool) (text : List Char) :
    text.drop (runLength belongs text) = text.dropWhile belongs := by
  unfold runLength
  induction text with
  | nil => rfl
  | cons c text ih => by_cases part : belongs c <;> simp [part, ih]

private theorem read_capital {c : Char} (behind : List Char) (capital : c.isUpper = true) :
    read c behind = some (some (.word (String.ofList (Text.upper (c :: behind.takeWhile Text.isWordPart)))),
      runLength Text.isWordPart behind) := by
  have code : 65 ≤ c.toNat ∧ c.toNat ≤ 90 := by
    have between : 65 ≤ c.val ∧ c.val ≤ 90 := of_decide_eq_true capital
    exact ⟨UInt32.le_iff_toNat_le.mp between.1, UInt32.le_iff_toNat_le.mp between.2⟩
  have different : ∀ mark : Char, mark.toNat < 65 → c ≠ mark := by
    rintro mark below rfl
    omega
  have past : ¬ c ≤ '\r' := by
    intro below
    have code' : c.toNat ≤ 13 := UInt32.le_iff_toNat_le.mp (Char.le_def.mp below)
    omega
  have alphabetic : c.isAlpha = true := Bool.or_eq_true_iff.mpr (.inl capital)
  have letter : Text.isWordStart c = true := by simp [Text.isWordStart, alphabetic]
  simp [read, Text.isSpace, past, letter, taken_run, different ' ' (by decide), different '-' (by decide),
    different '/' (by decide), different '"' (by decide), different '\'' (by decide), different '?' (by decide)]

/-- A capital begins a word, which takes all parts of words behind it. -/
theorem ofText_word {c : Char} (behind : List Char) (capital : c.isUpper = true) :
    ofText (c :: behind) = (ofText (behind.dropWhile Text.isWordPart)).map
      (.word (String.ofList (Text.upper (c :: behind.takeWhile Text.isWordPart))) :: ·) := by
  rw [ofText_cons (read_capital behind capital), dropped_run]
  rfl

private theorem ofText_mark {c : Char} (behind : List Char) (alone : c ∈ ['(', ')', '*', ',']) :
    ofText (c :: behind) = (ofText behind).map (.mark (String.singleton c) :: ·) := by
  have part : read c behind = some (some (.mark (String.singleton c)), 0) := by
    simp only [List.mem_cons, List.not_mem_nil, or_false] at alone
    rcases alone with rfl | rfl | rfl | rfl <;> simp [read, Text.isSpace, Text.isWordStart, doubleMarks]
  rw [ofText_cons part]
  rfl

private theorem ofText_operator {c : Char} (behind : List Char) (sign : c ∈ ['=', '<', '>']) :
    ofText (c :: ' ' :: behind) = (ofText behind).map (.mark (String.singleton c) :: ·) := by
  have part : read c (' ' :: behind) = some (some (.mark (String.singleton c)), 0) := by
    simp only [List.mem_cons, List.not_mem_nil, or_false] at sign
    rcases sign with rfl | rfl | rfl <;> simp [read, Text.isSpace, Text.isWordStart, doubleMarks]
  rw [ofText_cons part, List.drop_zero, ofText_blank]
  rfl

private theorem ofText_doubleMark {c d : Char} (behind : List Char)
    (sign : [c, d] ∈ [['<', '>'], ['<', '='], ['>', '=']]) :
    ofText (c :: d :: behind) = (ofText behind).map (.mark (String.ofList [c, d]) :: ·) := by
  have part : read c (d :: behind) = some (some (.mark (String.ofList [c, d])), 1) := by
    simp only [List.mem_cons, List.not_mem_nil, or_false, List.cons.injEq, and_true] at sign
    rcases sign with ⟨rfl, rfl⟩ | ⟨rfl, rfl⟩ | ⟨rfl, rfl⟩ <;>
      simp [read, Text.isSpace, Text.isWordStart, doubleMarks]
  rw [ofText_cons part]
  rfl

def doubled (quote : Char) (content : List Char) : List Char :=
  content.flatMap fun c => if c == quote then [quote, quote] else [c]

private theorem quoteName_doubled (identifier : String) :
    (quoteName identifier).toList = '"' :: (doubled '"' identifier.toList ++ ['"']) := by
  rw [quoteName, String.toList_ofList]
  rfl

private theorem doubled_cons (quote c : Char) (content : List Char) :
    doubled quote (c :: content) = (if c == quote then [quote, quote] else [c]) ++ doubled quote content :=
  List.flatMap_cons

/-- Quoted content ends at its own closing quote, whatever it is. -/
theorem quotedContent_doubled (quote : Char) (content : List Char) {rest : List Char} (closed : rest.head? ≠ some quote) :
    Text.quotedContent quote (doubled quote content ++ quote :: rest) =
      some (content, (doubled quote content).length + 1) := by
  induction content with
  | nil =>
    cases rest with
    | nil => simp [doubled, Text.quotedContent]
    | cons c rest =>
      have other : c ≠ quote := fun same => closed (congrArg some same)
      simp [doubled, Text.quotedContent, other]
  | cons c content ih =>
    rw [doubled_cons]
    by_cases own : c = quote
    · subst own
      simp [Text.quotedContent, ih]
    · rw [Text.quotedContent.eq_def]
      simp [own, ih]

private theorem ofText_name (identifier : String) (rest : List Char) (closed : rest.head? ≠ some '"') :
    ofText ((quoteName identifier).toList ++ rest) = (ofText rest).map (.name identifier :: ·) := by
  have part : read '"' (doubled '"' identifier.toList ++ '"' :: rest) =
      some (some (.name identifier), (doubled '"' identifier.toList).length + 1) := by
    simp [read, Text.isSpace, quotedContent_doubled _ _ closed]
  rw [quoteName_doubled, List.cons_append, List.append_assoc]
  rw [List.singleton_append, ofText_cons part, List.append_cons, List.drop_left' (by simp)]
  rfl

end Token

namespace Keyword

def tokens {α : Type} : Keyword → List (Token α)
  | .select => [.word "SELECT"]
  | .selectCount => [.word "SELECT", .word "COUNT", .mark "(", .mark "*", .mark ")"]
  | .comma | .listComma => [.mark ","]
  | .fromTable => [.word "FROM"]
  | .whereRows => [.word "WHERE"]
  | .orderBy => [.word "ORDER", .word "BY"]
  | .ascending => [.word "ASC"]
  | .descending => [.word "DESC"]
  | .limit => [.word "LIMIT"]
  | .offset => [.word "OFFSET"]
  | .equal => [.mark "="]
  | .unequal => [.mark "<>"]
  | .greater => [.mark ">"]
  | .greaterEqual => [.mark ">="]
  | .less => [.mark "<"]
  | .lessEqual => [.mark "<="]
  | .like => [.word "LIKE"]
  | .inList => [.word "IN"]
  | .between => [.word "BETWEEN"]
  | .isNull => [.word "IS", .word "NULL"]
  | .isNotNull => [.word "IS", .word "NOT", .word "NULL"]
  | .and => [.word "AND"]
  | .or => [.word "OR"]
  | .not => [.word "NOT"]
  | .opening => [.mark "("]
  | .closing => [.mark ")"]

end Keyword

namespace Piece

def tokens : Piece → List (Token Value)
  | .keyword word => word.tokens
  | .name identifier => [.name identifier]
  | .slot value => [.slot value]

def name? : Piece → Option String
  | .name identifier => some identifier
  | _ => none

def isOpen : Piece → Bool
  | .name _ | .keyword .isNull | .keyword .isNotNull | .keyword .ascending | .keyword .descending => true
  | _ => false

/-- Characters that neither words nor quoted names go on with. -/
def dividers : List Char := [' ', ',', ')']

def divides (piece : Piece) : Bool := piece.text.toList.head?.any dividers.contains

/-- What may stand behind a piece without changing how it is read. -/
def EndsBefore (piece : Piece) (rest : List Char) : Prop :=
  piece.isOpen = true → ∀ c ∈ rest.head?, c ∈ dividers

private theorem dividers_stop_words : ∀ c ∈ dividers, Text.isWordPart c = false := by
  simp [dividers, Text.isWordPart, Text.isWordStart]

private theorem EndsBefore.word_stops {piece : Piece} {rest : List Char} (ends : piece.EndsBefore rest)
    (openEnd : piece.isOpen = true) :
    rest.takeWhile Text.isWordPart = [] ∧ rest.dropWhile Text.isWordPart = rest := by
  cases rest with
  | nil => exact ⟨rfl, rfl⟩
  | cons c rest =>
    have stops := dividers_stop_words c (ends openEnd c rfl)
    simp [stops]

private theorem ofText_keyword (word : Keyword) (rest : List Char) (ends : (Piece.keyword word).EndsBefore rest) :
    Token.ofText (word.text.toList ++ rest) = (Token.ofText rest).map (word.tokens ++ ·) := by
  cases word with
  | isNull | isNotNull | ascending | descending =>
    obtain ⟨taken, dropped⟩ := ends.word_stops rfl
    simp [Keyword.text, Keyword.tokens, Token.ofText_word, Text.upper, Text.isWordPart, Text.isWordStart,
      taken, dropped, Function.comp_def]
  | _ =>
    simp [Keyword.text, Keyword.tokens, Token.ofText_word, Token.ofText_mark, Token.ofText_operator,
      Token.ofText_doubleMark, Text.upper, Text.isWordPart, Text.isWordStart, Function.comp_def]

private theorem ofText_piece (piece : Piece) (rest : List Char) (ends : piece.EndsBefore rest) :
    Token.ofText (piece.text.toList ++ rest) = (Token.ofText rest).map (piece.tokens.map Token.emptied ++ ·) := by
  cases piece with
  | keyword word =>
    have emptied : word.tokens.map (Token.emptied (α := Value)) = word.tokens := by
      cases word <;> rfl
    rw [tokens, emptied]
    exact ofText_keyword word rest ends
  | name identifier =>
    apply Token.ofText_name
    intro quote
    have divider := ends rfl _ quote
    contradiction
  | slot value =>
    simp [text, tokens, Token.emptied, Token.map]

end Piece

namespace Fragment

def tokens (fragment : Fragment) : List (Token Value) := fragment.flatMap Piece.tokens

def names (fragment : Fragment) : List String := fragment.filterMap Piece.name?

theorem arguments_append (first second : Fragment) : (first ++ second).arguments = first.arguments ++ second.arguments :=
  List.filterMap_append

theorem names_append (first second : Fragment) : (first ++ second).names = first.names ++ second.names :=
  List.filterMap_append

@[simp] theorem arguments_nil : arguments [] = [] := rfl

@[simp] theorem arguments_keyword (word : Keyword) (rest : Fragment) :
    arguments (.keyword word :: rest) = arguments rest := rfl

@[simp] theorem arguments_name (identifier : String) (rest : Fragment) :
    arguments (.name identifier :: rest) = arguments rest := rfl

@[simp] theorem arguments_slot (value : Value) (rest : Fragment) :
    arguments (.slot value :: rest) = value :: arguments rest := rfl

@[simp] theorem names_nil : names [] = [] := rfl

@[simp] theorem names_keyword (word : Keyword) (rest : Fragment) : names (.keyword word :: rest) = names rest := rfl

@[simp] theorem names_name (identifier : String) (rest : Fragment) :
    names (.name identifier :: rest) = identifier :: names rest := rfl

@[simp] theorem names_slot (value : Value) (rest : Fragment) : names (.slot value :: rest) = names rest := rfl

/-- Wherever the end of a piece shows only by what comes next, the next piece shows it. -/
def Spaced (fragment : Fragment) : Prop :=
  fragment.IsChain fun first second => first.isOpen = true → second.divides = true

theorem text_cons (piece : Piece) (rest : Fragment) :
    (text (piece :: rest)).toList = piece.text.toList ++ (text rest).toList := by
  simp [text]

theorem Spaced.append {first second : Fragment} (spaced : first.Spaced) (spaced' : second.Spaced)
    (divided : ∀ piece ∈ second.head?, piece.divides = true) : Spaced (first ++ second) :=
  List.IsChain.append spaced spaced' fun _ _ next begins _ => divided next begins

theorem Spaced.cons {piece : Piece} {rest : Fragment} (closed : piece.isOpen = false) (spaced : rest.Spaced) :
    Spaced (piece :: rest) := by
  refine List.isChain_cons.mpr ⟨?_, spaced⟩
  intro next begins openEnd
  rw [closed] at openEnd
  contradiction

theorem Spaced.bracketed {fragment : Fragment} (spaced : fragment.Spaced) : fragment.bracketed.Spaced := by
  apply Spaced.cons rfl
  apply spaced.append (List.isChain_singleton _)
  rintro piece ⟨⟩
  decide

theorem Spaced.separated {separator : Keyword} {fragments : List Fragment}
    (divides : (Piece.keyword separator).divides = true) (closed : (Piece.keyword separator).isOpen = false)
    (spaced : ∀ fragment ∈ fragments, Spaced fragment) : Spaced (separated separator fragments) := by
  fun_induction Fragment.separated separator fragments with
  | case1 => exact List.isChain_nil
  | case2 only => exact spaced only (by simp)
  | case3 first rest _ ih =>
    apply (spaced first (by simp)).append
    · exact Spaced.cons closed (ih fun fragment member => spaced fragment (by simp [member]))
    · rintro piece ⟨⟩
      exact divides

/-- No piece is read together with a part of the next one. -/
theorem ofText_spaced {fragment : Fragment} (spaced : fragment.Spaced) :
    Token.ofText fragment.text.toList = some (fragment.tokens.map Token.emptied) := by
  induction fragment with
  | nil => exact Token.ofText_nil
  | cons piece rest ih =>
    obtain ⟨divided, spaced⟩ := List.isChain_cons.mp spaced
    have ends : piece.EndsBefore (text rest).toList := by
      intro openEnd c first
      cases rest with
      | nil => contradiction
      | cons next rest =>
        have divides := divided next rfl openEnd
        rw [text_cons] at first
        cases shown : next.text.toList with
        | nil => simp [Piece.divides, shown] at divides
        | cons d behind =>
          rw [shown] at first
          cases first
          simpa [Piece.divides, shown] using divides
    rw [text_cons, Piece.ofText_piece piece _ ends, ih spaced]
    simp [tokens]

private theorem filterMap_tokens {β : Type} (token? : Token Value → Option β) (piece? : Piece → Option β)
    (own : ∀ piece : Piece, piece.tokens.filterMap token? = (piece? piece).toList) (fragment : Fragment) :
    fragment.tokens.filterMap token? = fragment.filterMap piece? := by
  induction fragment with
  | nil => rfl
  | cons piece rest ih =>
    simp only [tokens] at ih ⊢
    rw [List.flatMap_cons, List.filterMap_append, own, ih]
    cases given : piece? piece <;> simp [given]

theorem arguments_tokens (fragment : Fragment) : fragment.tokens.filterMap Token.slot? = fragment.arguments := by
  refine filterMap_tokens Token.slot? Piece.argument? ?_ fragment
  intro piece
  cases piece with
  | keyword word => cases word <;> rfl
  | name identifier => rfl
  | slot value => rfl

theorem names_tokens (fragment : Fragment) : fragment.tokens.filterMap Token.name? = fragment.names := by
  refine filterMap_tokens Token.name? Piece.name? ?_ fragment
  intro piece
  cases piece with
  | keyword word => cases word <;> rfl
  | name identifier => rfl
  | slot value => rfl

/-- The arguments go back into the slots that they were taken from. -/
theorem fill_text {fragment : Fragment} (spaced : fragment.Spaced) :
    (Token.ofText fragment.text.toList).bind (Token.fill · fragment.arguments) = some fragment.tokens := by
  rw [ofText_spaced spaced, ← arguments_tokens]
  exact Token.fill_emptied fragment.tokens

end Fragment

end Relmap
