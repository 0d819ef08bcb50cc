import Relmap.Code.Source
import Relmap.Proofs.LiteralText

/-! Source text as a compiler splits it: words, texts between quotes and single marks, with comments left out. Each
character moves the splitting on from one mode to the next, so a text can be split piece by piece. -/

namespace Relmap.Source

inductive Token where
  | word (spelling : String)
  | text (content : String)
  | mark (c : Char)
  deriving DecidableEq

/-- Where in a text the splitting stands. -/
inductive Mode where
  | between
  /-- Behind a slash, which may begin a comment. -/
  | slash
  | comment
  | word (spelling : List Char)
  /-- Behind a colon, perhaps with a word before it, that is a mark unless another one makes it part of a path. -/
  | colon (spelling : Option (List Char))
  | quoted (written : List Char)
  /-- Behind a backslash, where a quote does not end the text. -/
  | escaped (written : List Char)
  | broken
  deriving DecidableEq

/-- Lifetimes and raw identifiers have marks that belong to their word. -/
def isWordChar (c : Char) : Bool :=
  c.isAlphanum || c == '_' || c == '#' || c == '\'' || 128 ≤ c.toNat && !Text.isBlank c

def begin (c : Char) : Mode × List Token :=
  if isWordChar c then (.word [c], [])
  else if c = ':' then (.colon none, [])
  else if c = '"' then (.quoted [], [])
  else if c = '/' then (.slash, [])
  else if Text.isBlank c then (.between, [])
  else (.between, [.mark c])

def complete (tokens : List Token) (c : Char) : Mode × List Token := ((begin c).1, tokens ++ (begin c).2)

def step : Mode → Char → Mode × List Token
  | .between, c => begin c
  | .slash, c => if c = '/' then (.comment, []) else complete [.mark '/'] c
  | .comment, c => if c = '\n' ∨ c = '\r' then (.between, []) else (.comment, [])
  | .word spelling, c =>
    if isWordChar c then (.word (spelling ++ [c]), [])
    else if c = ':' then (.colon (some spelling), [])
    else complete [.word (String.ofList spelling)] c
  | .colon spelling, c =>
    if c = ':' then (.word (spelling.getD [] ++ [':', ':']), [])
    else complete ((spelling.map fun word => .word (String.ofList word)).toList ++ [.mark ':']) c
  | .quoted written, c =>
    if c = '"' then
      match Text.unescape written with
      | some content => (.between, [.text (String.ofList content)])
      | none => (.broken, [])
    else if c = '\\' then (.escaped (written ++ [c]), [])
    else (.quoted (written ++ [c]), [])
  | .escaped written, c => (.quoted (written ++ [c]), [])
  | .broken, _ => (.broken, [])

def split : Mode → List Char → Mode × List Token
  | mode, [] => (mode, [])
  | mode, c :: rest => ((split (step mode c).1 rest).1, (step mode c).2 ++ (split (step mode c).1 rest).2)

/-- A text that ends inside a word, a comment or a pair of quotes has no tokens. -/
def tokens (text : String) : Option (List Token) :=
  match split .between text.toList with
  | (.between, tokens) => some tokens
  | _ => none

def Splits (before : Mode) (piece : String) (tokens : List Token) (after : Mode) : Prop :=
  split before piece.toList = (after, tokens)

theorem split_append (before : Mode) (first second : List Char) : split before (first ++ second) =
    ((split (split before first).1 second).1, (split before first).2 ++ (split (split before first).1 second).2) := by
  induction first generalizing before with
  | nil => rfl
  | cons c rest ih => simp only [List.cons_append, split, ih, List.append_assoc]

theorem Splits.append {before middle after : Mode} {first second : String} {leading trailing : List Token}
    (one : Splits before first leading middle) (other : Splits middle second trailing after) :
    Splits before (first ++ second) (leading ++ trailing) after := by
  unfold Splits at one other ⊢
  rw [String.toList_append, split_append, one, other]

theorem Splits.empty (mode : Mode) : Splits mode "" [] mode := rfl

/-- For texts that are spelled out, whose characters would else be read off their bytes. -/
theorem Splits.spelled {before after : Mode} {piece : List Char} {tokens : List Token}
    (own : split before piece = (after, tokens)) : Splits before (String.ofList piece) tokens after := by
  rw [Splits, String.toList_ofList, own]

theorem Splits.chain {before middle after : Mode} {first second : String} {leading trailing tokens : List Token}
    (one : Splits before first leading middle) (other : Splits middle second trailing after)
    (together : leading ++ trailing = tokens) : Splits before (first ++ second) tokens after :=
  together ▸ one.append other

/-- Spelled text behind a word that is not. -/
theorem Splits.behind {spelling : String} {piece : List Char} {tokens : List Token} {after : Mode}
    (own : split (.word spelling.toList) piece = (after, .word (String.ofList spelling.toList) :: tokens)) :
    Splits (.word spelling.toList) (String.ofList piece) (.word spelling :: tokens) after := by
  rw [String.ofList_toList] at own
  exact .spelled own

theorem Splits.ended {line : String} {tokens : List Token} (own : Splits .between line tokens .between) :
    Splits .between (line ++ "\n") tokens .between := own.chain (.spelled rfl) (List.append_nil tokens)

/-- Words with pairs of colons between them, before them or behind them. -/
def joined : List Char → Bool
  | [] => true
  | ':' :: ':' :: rest => joined rest
  | c :: rest => isWordChar c && joined rest

/-- An identifier or a path, which is one word. -/
def IsPath (text : String) : Prop := text ≠ "" ∧ joined text.toList = true

instance (text : String) : Decidable (IsPath text) := inferInstanceAs (Decidable (_ ∧ _))

theorem colon_separate : isWordChar ':' = false := by decide

theorem joined_letters {text : List Char} (letters : ∀ c ∈ text, isWordChar c = true) : joined text = true := by
  induction text with
  | nil => rfl
  | cons c rest ih =>
    obtain ⟨own, others⟩ := List.forall_mem_cons.mp letters
    unfold joined
    split
    · contradiction
    next same =>
      rw [(List.cons.inj same).1, colon_separate] at own
      contradiction
    next same =>
      obtain ⟨rfl, rfl⟩ := List.cons.inj same
      rw [own, ih others]
      rfl

theorem letters_path {text : String} (nonempty : text ≠ "") (letters : ∀ c ∈ text.toList, isWordChar c = true) : IsPath text :=
  ⟨nonempty, joined_letters letters⟩

theorem joined_append {first second : List Char} (one : joined first = true) (other : joined second = true) :
    joined (first ++ second) = true := by
  fun_induction joined first with
  | case1 => exact other
  | case2 rest ih => exact ih one
  | case3 c rest separate ih =>
    obtain ⟨own, others⟩ := Bool.and_eq_true_iff.mp one
    have alone : ∀ more, c = ':' → rest ++ second = ':' :: more → False := by
      rintro more rfl -
      rw [colon_separate] at own
      contradiction
    rw [List.cons_append, joined.eq_3 _ _ alone, own, ih others]
    rfl

theorem IsPath.append {name more : String} (path : IsPath name) (letters : ∀ c ∈ more.toList, isWordChar c = true) :
    IsPath (name ++ more) := by
  refine ⟨fun empty => path.1 (String.append_eq_empty_iff.mp empty).1, ?_⟩
  rw [String.toList_append]
  exact joined_append path.2 (joined_letters letters)

theorem split_joined {text : List Char} (path : joined text = true) (spelling : List Char) :
    split (.word spelling) text = (.word (spelling ++ text), []) := by
  fun_induction joined text generalizing spelling with
  | case1 => simp [split]
  | case2 rest ih => simp [split, step, colon_separate, ih path]
  | case3 c rest separate ih =>
    obtain ⟨own, others⟩ := Bool.and_eq_true_iff.mp path
    simp [split, step, own, ih others]

theorem IsPath.splits {name : String} (path : IsPath name) : Splits .between name [] (.word name.toList) := by
  obtain ⟨nonempty, whole⟩ := path
  have some : name.toList ≠ [] := by simpa using nonempty
  unfold Splits
  revert some whole
  generalize name.toList = text
  intro whole some
  fun_cases joined text with
  | case1 => contradiction
  | case2 rest => simp [split, step, begin, colon_separate, split_joined (show joined rest = true from whole)]
  | case3 c rest separate =>
    rw [joined.eq_3 _ _ separate] at whole
    obtain ⟨own, others⟩ := Bool.and_eq_true_iff.mp whole
    simp [split, step, begin, own, split_joined others]

theorem Splits.named {front name : String} {behind : List Char} {leading trailing tokens : List Token} {after : Mode}
    (before : Splits .between front leading .between) (path : IsPath name)
    (own : split (.word name.toList) behind = (after, .word (String.ofList name.toList) :: trailing))
    (together : leading ++ .word name :: trailing = tokens) :
    Splits .between (front ++ name ++ String.ofList behind) tokens after := by
  have whole := before.chain path.splits (List.append_nil leading)
  exact whole.chain (.behind own) together

theorem digit_wordChar {c : Char} (digit : c.isDigit = true) : isWordChar c = true := by
  simp [isWordChar, Char.isAlphanum, digit]

theorem number_toList (n : Nat) : (toString n).toList = Nat.toDigits 10 n := by
  rw [Nat.toString_eq_ofList_toDigits, String.toList_ofList]

theorem number_path (n : Nat) : IsPath (toString n) := by
  have digits := number_toList n
  refine letters_path (fun empty => ?_) fun c member => ?_
  · rw [empty] at digits
    exact Nat.toDigits_ne_nil digits.symm
  · rw [digits] at member
    exact digit_wordChar (Nat.isDigit_of_mem_toDigits (by decide) (by decide) member)

theorem split_plain {text : List Char} (plain : ∀ c ∈ text, c ≠ '"' ∧ c ≠ '\\') (written : List Char) :
    split (.quoted written) text = (.quoted (written ++ text), []) := by
  induction text generalizing written with
  | nil => simp [split]
  | cons c rest ih =>
    obtain ⟨⟨noQuote, noBackslash⟩, others⟩ := List.forall_mem_cons.mp plain
    simp [split, step, noQuote, noBackslash, ih others]

private theorem split_escapeChar (c : Char) (written : List Char) :
    split (.quoted written) (Text.escapeChar c) = (.quoted (written ++ Text.escapeChar c), []) := by
  rcases Text.escapeChar_cases c with ⟨letter, -, form⟩ | ⟨noBackslash, noQuote, -, form⟩ | form
  · simp [form, split, step]
  · rw [form]
    exact split_plain (by simpa using ⟨noQuote, noBackslash⟩) written
  · have digits : ∀ digit ∈ Text.hexadecimal c.toNat, digit ≠ '"' ∧ digit ≠ '\\' := by
      intro digit member
      have isDigit := Text.hexadecimal_digits c.toNat digit member
      constructor <;> rintro rfl <;> contradiction
    simp [form, split, step, split_append, split_plain digits]

private theorem split_escape (text written : List Char) :
    split (.quoted written) (Text.escape text) = (.quoted (written ++ Text.escape text), []) := by
  induction text generalizing written with
  | nil => simp [Text.escape, split]
  | cons c rest ih =>
    have whole : Text.escape (c :: rest) = Text.escapeChar c ++ Text.escape rest := rfl
    rw [whole, split_append, split_escapeChar, ih, List.append_assoc]
    rfl

theorem Splits.literal (text : String) : Splits .between (Text.literal text) [.text text] .between := by
  have opened : split .between ['"'] = (.quoted [], []) := rfl
  have closed : split (.quoted (Text.escape text.toList)) ['"'] = (.between, [.text text]) := by
    simp [split, step, Text.unescape_escape]
  rw [Splits, Text.literal, String.toList_ofList, ← List.singleton_append, List.append_assoc, split_append, opened, split_append,
    split_escape, List.nil_append, closed]
  rfl

theorem Splits.quoted {front text : String} {behind : List Char} {leading trailing tokens : List Token} {after : Mode}
    (before : Splits .between front leading .between) (own : split .between behind = (after, trailing))
    (together : leading ++ .text text :: trailing = tokens) :
    Splits .between (front ++ Text.literal text ++ String.ofList behind) tokens after := by
  have whole := before.append (.literal text)
  refine whole.chain (.spelled own) ?_
  rw [List.append_assoc]
  exact together

theorem Splits.comment {text : String} (unbroken : ∀ c ∈ text.toList, c ≠ '\n' ∧ c ≠ '\r') :
    Splits .comment text [] .comment := by
  unfold Splits
  revert unbroken
  generalize text.toList = chars
  intro unbroken
  induction chars with
  | nil => rfl
  | cons c rest ih =>
    obtain ⟨⟨noFeed, noReturn⟩, others⟩ := List.forall_mem_cons.mp unbroken
    simp [split, step, noFeed, noReturn, ih others]

/-- Lines whose tokens follow each other, none of them shared. -/
inductive Prints : List String → List Token → Prop where
  | nil : Prints [] []
  | cons {line : String} {lines : List String} {tokens rest : List Token} (own : Splits .between (line ++ "\n") tokens .between)
      (others : Prints lines rest) : Prints (line :: lines) (tokens ++ rest)

namespace Prints

theorem append {first second : List String} {leading trailing : List Token} (one : Prints first leading)
    (other : Prints second trailing) : Prints (first ++ second) (leading ++ trailing) := by
  induction one with
  | nil => exact other
  | cons own others ih =>
    rw [List.append_assoc]
    exact .cons own ih

theorem indented {lines : List String} {tokens : List Token} (printed : Prints lines tokens) :
    Prints (Code.indented lines) tokens := by
  induction printed with
  | nil => exact .nil
  | @cons line lines tokens rest own others ih =>
    have margin : Splits .between "    " [] .between := .spelled rfl
    refine .cons ?_ ih
    rw [String.append_assoc]
    exact margin.append own

theorem map {α : Type} {line : α → String} {printed : α → List Token} {items : List α}
    (each : ∀ item ∈ items, Splits .between (line item ++ "\n") (printed item) .between) :
    Prints (items.map line) (items.flatMap printed) := by
  induction items with
  | nil => exact .nil
  | cons item items ih =>
    obtain ⟨own, others⟩ := List.forall_mem_cons.mp each
    exact .cons own (ih others)

theorem single {line : String} {tokens : List Token} (own : Splits .between (line ++ "\n") tokens .between) :
    Prints [line] tokens := by
  have printed := cons own nil
  rwa [List.append_nil] at printed

theorem block {opening closing : String} {lines : List String} {first inner last : List Token}
    (opened : Splits .between (opening ++ " \x7b" ++ "\n") first .between) (within : Prints lines inner)
    (closed : Splits .between ("\x7d" ++ closing ++ "\n") last .between) :
    Prints (Code.block opening lines closing) (first ++ (inner ++ last)) :=
  cons opened (within.indented.append (single closed))

theorem text {lines : List String} {tokens : List Token} (printed : Prints lines tokens) :
    Splits .between (String.join (lines.map (· ++ "\n"))) tokens .between := by
  induction printed with
  | nil => exact .empty .between
  | cons own others ih =>
    rw [List.map_cons, String.join_cons]
    exact own.append ih

theorem tokens {lines : List String} {tokens : List Token} (printed : Prints lines tokens) :
    Source.tokens (String.join (lines.map (· ++ "\n"))) = some tokens := by
  rw [Source.tokens, printed.text]

end Prints

end Relmap.Source
