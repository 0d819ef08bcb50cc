import Mathlib.Data.List.Infix
import Relmap.Ddl.Extract
import Relmap.Scan

/-! Schema text as a database reads it, from left to right: a quoted text is one part, whatever it holds, and a comment
is one blank. Extraction passes over the text three times and knows no quotes, yet it finds the same statements, unless
quoted text or a line comment holds a mark that one of the passes takes for its own. -/

namespace Relmap.Ddl

def lineFeeds : List Char → List Char
  | [] => []
  | c :: rest => if ['\r', '\n'] <+: c :: rest then lineFeeds rest else c :: lineFeeds rest

inductive Part where
  | plain (c : Char)
  | quoted (mark : Char) (content : List Char)
  | lineComment (content : List Char)
  | blockComment (content : List Char)
  deriving DecidableEq

namespace Part

def source : Part → List Char
  | plain c => [c]
  | quoted mark content => mark :: (content ++ [mark])
  | lineComment content => '-' :: '-' :: content
  | blockComment content => '/' :: '*' :: (content ++ ['*', '/'])

/-- What a statement keeps of a part. The line feed behind a line comment is a part of its own. -/
def text : Part → List Char
  | lineComment _ => []
  | blockComment _ => [' ']
  | part => part.source

def ends : Part → Bool
  | plain c => c == ';'
  | _ => false

end Part

/-- The text before the first end of a block comment. -/
def beforeEnd : List Char → Option (List Char)
  | [] => none
  | c :: rest => if ['*', '/'] <+: c :: rest then some [] else (beforeEnd rest).map (c :: ·)

def isQuote (c : Char) : Bool := c == '\'' || c == '"'

/-- Whatever opens first counts. A quote or a block comment that is not closed cannot be read. -/
def readPart : PartReader Char Part
  | '-', '-' :: behind =>
    let content := behind.takeWhile (· != '\n')
    some (.lineComment content, content.length + 1)
  | '/', '*' :: behind => (beforeEnd behind).map fun content => (.blockComment content, content.length + 3)
  | c, behind =>
    if isQuote c then
      let content := behind.takeWhile (· != c)
      if content.length < behind.length then some (.quoted c content, content.length + 1) else none
    else some (.plain c, 0)

def parts (text : String) : Option (List Part) := scanAll readPart (lineFeeds text.toList)

/-- The statements that declare something, where only a semicolon outside of quotes and comments ends one. -/
def statements (found : List Part) : List (List Char) :=
  ((found.splitOnP Part.ends).map fun piece => Text.trim (piece.flatMap Part.text)).filter fun statement =>
    !statement.isEmpty && declares statement

def scanned (text : String) : Option (List String) :=
  (parts text).map fun found => (statements found).map fun statement => String.ofList (statement ++ [';'])

example : scanned "CREATE TABLE t (a TEXT DEFAULT ';' /* ; */);;" = some ["CREATE TABLE t (a TEXT DEFAULT ';'  );"] := by
  decide +kernel

/-- A block comment could open in this text and be closed, perhaps further behind. -/
def Opens (content behind : List Char) : Prop :=
  ∃ tail ∈ content.tails, ['/', '*'] <+: tail ∧ ['*', '/'] <:+: tail.drop 2 ++ behind

instance (content behind : List Char) : Decidable (Opens content behind) :=
  inferInstanceAs (Decidable (∃ tail ∈ content.tails, ['/', '*'] <+: tail ∧ ['*', '/'] <:+: tail.drop 2 ++ behind))

/-- No pass takes anything for its mark in quoted text, and no block comment leads out of a line comment. -/
def Part.Inert : Part → List Char → Prop
  | quoted mark content, behind => ';' ∉ content ∧ ¬ ['-', '-'] <:+: content ∧ ¬ Opens content (mark :: behind)
  | lineComment content, behind => ['/', '*'] <:+: withoutBlocks content → ¬ ['*', '/'] <:+: behind
  | _, _ => True

instance : (part : Part) → (behind : List Char) → Decidable (part.Inert behind)
  | .plain _, _ | .blockComment _, _ => inferInstanceAs (Decidable True)
  | .quoted _ _, _ => inferInstanceAs (Decidable (_ ∧ _ ∧ _))
  | .lineComment _, _ => inferInstanceAs (Decidable (_ → _))

def Throughout (holds : Part → List Char → Prop) : List Part → Prop
  | [] => True
  | part :: rest => holds part (rest.flatMap Part.source) ∧ Throughout holds rest

instance decidableThroughout (holds : Part → List Char → Prop) [∀ part behind, Decidable (holds part behind)] :
    (found : List Part) → Decidable (Throughout holds found)
  | [] => inferInstanceAs (Decidable True)
  | _ :: rest => have := decidableThroughout holds rest; inferInstanceAs (Decidable (_ ∧ _))

def Part.Fits : Part → List Char → Prop
  | plain c, behind => isQuote c = false ∧ ¬ ['-', '-'] <+: c :: behind ∧ ¬ ['/', '*'] <+: c :: behind
  | quoted mark content, _ => isQuote mark = true ∧ mark ∉ content
  | lineComment content, behind => '\n' ∉ content ∧ (behind = [] ∨ behind.head? = some '\n')
  | blockComment content, behind => afterBlock (content ++ '*' :: '/' :: behind) = some behind

theorem pair_iff {first second c : Char} {behind : List Char} :
    [first, second] <+: c :: behind ↔ c = first ∧ behind.head? = some second := by
  rw [List.cons_prefix_cons, eq_comm]
  cases behind <;> simp [eq_comm]

theorem pair_begins {first second c : Char} {behind : List Char} (pair : [first, second] <+: c :: behind) :
    ∃ rest, c = first ∧ behind = second :: rest := by
  obtain ⟨rfl, next⟩ := pair_iff.mp pair
  obtain ⟨rest, rfl⟩ := List.head?_eq_some_iff.mp next
  exact ⟨rest, rfl, rfl⟩

theorem not_pair_iff {first second c : Char} {behind : List Char} :
    ¬ [first, second] <+: c :: behind ↔ ∀ rest, c = first → behind = second :: rest → False := by
  constructor
  · rintro apart rest rfl rfl
    exact apart ⟨rest, rfl⟩
  · intro apart pair
    obtain ⟨rest, same, whole⟩ := pair_begins pair
    exact apart rest same whole

theorem pair_left {first second c : Char} {content behind : List Char} (apart : behind.head? ≠ some second)
    (pair : [first, second] <+: c :: (content ++ behind)) : [first, second] <+: c :: content := by
  rw [pair_iff] at pair ⊢
  cases content with
  | nil => exact absurd pair.2 apart
  | cons d content => exact pair

theorem afterBlock_cons {c : Char} {behind : List Char} (apart : ¬ ['*', '/'] <+: c :: behind) :
    afterBlock (c :: behind) = afterBlock behind := by
  rw [afterBlock]
  exact not_pair_iff.mp apart

private theorem afterBlock_suffix {text rest : List Char} (found : afterBlock text = some rest) : rest <:+ text := by
  fun_induction afterBlock text with
  | case1 => contradiction
  | case2 after =>
    cases found
    exact ⟨['*', '/'], rfl⟩
  | case3 c others _ ih => exact (ih found).trans (List.suffix_cons c others)

private theorem beforeEnd_found {text content : List Char} (found : beforeEnd text = some content) :
    ∃ behind, text = content ++ '*' :: '/' :: behind ∧ afterBlock text = some behind := by
  induction text generalizing content with
  | nil => contradiction
  | cons c rest ih =>
    unfold beforeEnd at found
    split at found
    next ends =>
      obtain ⟨behind, rfl, rfl⟩ := pair_begins ends
      cases found
      exact ⟨behind, rfl, rfl⟩
    next further =>
      obtain ⟨others, later, rfl⟩ := Option.map_eq_some_iff.mp found
      obtain ⟨behind, rfl, after⟩ := ih later
      exact ⟨behind, rfl, (afterBlock_cons further).trans after⟩

theorem cut_at (mark : Char) (text : List Char) : ∃ behind, text = text.takeWhile (· != mark) ++ behind ∧
    mark ∉ text.takeWhile (· != mark) ∧ (behind = [] ∨ behind.head? = some mark) := by
  refine ⟨text.dropWhile (· != mark), List.takeWhile_append_dropWhile.symm, ?_, ?_⟩
  · intro member
    simpa using List.all_eq_true.mp List.all_takeWhile mark member
  · rw [← List.head?_eq_none_iff]
    have first := List.head?_dropWhile_not (· != mark) text
    cases seen : (text.dropWhile (· != mark)).head? with
    | none => exact .inl rfl
    | some c => right; simpa [seen] using first

private theorem readPart_fits {c : Char} {behind : List Char} {part : Part} {length : Nat}
    (read : readPart c behind = some (part, length)) :
    c :: behind = part.source ++ behind.drop length ∧ part.Fits (behind.drop length) := by
  unfold readPart at read
  split at read
  next behind =>
    obtain ⟨rest, whole, unbroken, ended⟩ := cut_at '\n' behind
    generalize behind.takeWhile (· != '\n') = content at *
    cases read
    subst whole
    simpa [Part.source, Part.Fits] using ⟨unbroken, ended⟩
  next behind =>
    obtain ⟨content, found, equal⟩ := Option.map_eq_some_iff.mp read
    clear read
    obtain ⟨rest, rfl, after⟩ := beforeEnd_found found
    cases equal
    have dropped : ('*' :: (content ++ '*' :: '/' :: rest)).drop (content.length + 3) = rest := by
      rw [List.drop_succ_cons, ← List.drop_drop, List.drop_left]
      rfl
    rw [dropped]
    exact ⟨by simp [Part.source], after⟩
  next _ _ noLine noBlock =>
    split at read
    next quote =>
      obtain ⟨rest, whole, free, ended⟩ := cut_at c behind
      generalize behind.takeWhile (· != c) = content at *
      dsimp only at read
      split at read
      next inside =>
        cases read
        obtain rfl | closed := ended
        · simp [whole] at inside
        · obtain ⟨rest, rfl⟩ := List.head?_eq_some_iff.mp closed
          subst whole
          simpa [Part.source, Part.Fits] using ⟨quote, free⟩
      · contradiction
    next other =>
      cases read
      exact ⟨rfl, by simpa using other, not_pair_iff.mpr noLine, not_pair_iff.mpr noBlock⟩

private theorem scanAll_fits {text : List Char} {found : List Part} (read : scanAll readPart text = some found) :
    text = found.flatMap Part.source ∧ Throughout Part.Fits found := by
  induction found generalizing text with
  | nil =>
    cases text with
    | nil => exact ⟨rfl, trivial⟩
    | cons c behind =>
      simp [scanAll_cons, Option.bind_eq_some_iff] at read
  | cons part rest ih =>
    cases text with
    | nil => simp [scanAll_nil] at read
    | cons c behind =>
      rw [scanAll_cons] at read
      obtain ⟨⟨first, length⟩, first_read, later⟩ := Option.bind_eq_some_iff.mp read
      obtain ⟨others, others_read, equal⟩ := Option.map_eq_some_iff.mp later
      cases equal
      obtain ⟨whole, fits⟩ := readPart_fits first_read
      obtain ⟨left, fit⟩ := ih others_read
      rw [left] at whole fits
      exact ⟨whole, fits, fit⟩

theorem afterBlock_unclosed {text : List Char} (unclosed : ¬ ['*', '/'] <:+: text) : afterBlock text = none := by
  induction text with
  | nil => rfl
  | cons c behind ih =>
    rw [List.infix_cons_iff, not_or] at unclosed
    rw [afterBlock_cons unclosed.1, ih unclosed.2]

theorem afterBlock_append {content behind : List Char} (apart : behind.head? ≠ some '/') :
    afterBlock (content ++ behind) = ((afterBlock content).map (· ++ behind)).or (afterBlock behind) := by
  induction content with
  | nil => rfl
  | cons c content ih =>
    by_cases ends : ['*', '/'] <+: c :: content
    · obtain ⟨rest, rfl, rfl⟩ := pair_begins ends
      rfl
    · rw [List.cons_append, afterBlock_cons fun pair => ends (pair_left apart pair), ih, afterBlock_cons ends]

theorem withoutBlocks_cons {c : Char} {behind : List Char} (apart : ¬ ['/', '*'] <+: c :: behind) :
    withoutBlocks (c :: behind) = c :: withoutBlocks behind := by
  rw [withoutBlocks]
  exact not_pair_iff.mp apart

theorem withoutBlocks_comment {behind rest : List Char} (closed : afterBlock behind = some rest) :
    withoutBlocks ('/' :: '*' :: behind) = ' ' :: withoutBlocks rest := by
  rw [withoutBlocks]
  split <;> simp_all

theorem withoutBlocks_open {behind : List Char} (unclosed : afterBlock behind = none) :
    withoutBlocks ('/' :: '*' :: behind) = '/' :: '*' :: behind := by
  rw [withoutBlocks]
  split <;> simp_all

theorem withoutBlocks_unclosed {text : List Char} (unclosed : ¬ ['*', '/'] <:+: text) : withoutBlocks text = text := by
  induction text with
  | nil => rw [withoutBlocks]
  | cons c behind ih =>
    rw [List.infix_cons_iff, not_or] at unclosed
    by_cases opens : ['/', '*'] <+: c :: behind
    · obtain ⟨rest, rfl, rfl⟩ := pair_begins opens
      refine withoutBlocks_open (afterBlock_unclosed fun closed => unclosed.2 ?_)
      exact closed.trans (List.suffix_cons ..).isInfix
    · rw [withoutBlocks_cons opens, ih unclosed.2]

/-- Text in which no block comment opens stays, whatever comes behind it. -/
theorem withoutBlocks_append {content behind : List Char} (shut : ¬ Opens content behind)
    (apart : behind.head? ≠ some '*') : withoutBlocks (content ++ behind) = content ++ withoutBlocks behind := by
  induction content with
  | nil => rfl
  | cons c content ih =>
    by_cases opens : ['/', '*'] <+: c :: content
    · obtain ⟨rest, rfl, rfl⟩ := pair_begins opens
      have unclosed : ¬ ['*', '/'] <:+: rest ++ behind :=
        fun closed => shut ⟨'/' :: '*' :: rest, by simp, ⟨rest, rfl⟩, closed⟩
      rw [withoutBlocks_unclosed fun closed => unclosed (closed.trans (List.suffix_append ..).isInfix)]
      exact withoutBlocks_open (afterBlock_unclosed unclosed)
    · have inner : ¬ Opens content behind := by
        intro ⟨tail, member, mark, closed⟩
        exact shut ⟨tail, by simp [List.tails, member], mark, closed⟩
      rw [List.cons_append, withoutBlocks_cons fun pair => opens (pair_left apart pair), ih inner]
      rfl

/-- A line comment may hold block comments that end in it. -/
theorem withoutBlocks_line {content behind : List Char} (ended : behind = [] ∨ behind.head? = some '\n')
    (led : ['/', '*'] <:+: withoutBlocks content → ¬ ['*', '/'] <:+: behind) :
    withoutBlocks (content ++ behind) = withoutBlocks content ++ withoutBlocks behind := by
  have apart (c : Char) (other : c ≠ '\n') : behind.head? ≠ some c := by
    obtain rfl | feed := ended
    · simp
    · simpa [feed] using other.symm
  fun_induction withoutBlocks content with
  | case1 => rfl
  | case2 rest after found _ ih =>
    rw [List.cons_append, List.cons_append, List.cons_append, ← ih fun opens => led (List.infix_cons opens)]
    apply withoutBlocks_comment
    rw [afterBlock_append (apart '/' (by decide)), found]
    rfl
  | case3 rest found =>
    have unclosed : ¬ ['*', '/'] <:+: behind := led (List.prefix_append ['/', '*'] rest).isInfix
    have open' : afterBlock (rest ++ behind) = none := by
      rw [afterBlock_append (apart '/' (by decide)), found, afterBlock_unclosed unclosed]
      rfl
    rw [withoutBlocks_unclosed unclosed]
    exact withoutBlocks_open open'
  | case4 c rest plain ih =>
    rw [List.cons_append, List.cons_append, ← ih fun opens => led (List.infix_cons opens)]
    exact withoutBlocks_cons fun pair => not_pair_iff.mpr plain (pair_left (apart '*' (by decide)) pair)

theorem mem_withoutBlocks {c : Char} {text : List Char} (member : c ∈ withoutBlocks text) : c = ' ' ∨ c ∈ text := by
  fun_induction withoutBlocks text with
  | case1 => exact .inr member
  | case2 rest after found _ ih =>
    obtain rfl | member := List.mem_cons.mp member
    · exact .inl rfl
    · exact (ih member).imp_right fun kept =>
        List.mem_cons_of_mem _ (List.mem_cons_of_mem _ ((afterBlock_suffix found).subset kept))
  | case3 rest found => exact .inr member
  | case4 d rest _ ih =>
    obtain rfl | member := List.mem_cons.mp member
    · exact .inr List.mem_cons_self
    · exact (ih member).imp_right (List.mem_cons_of_mem d)

def Part.kept : Part → List Char
  | lineComment content => '-' :: '-' :: withoutBlocks content
  | blockComment _ => [' ']
  | part => part.source

theorem quote_ne {mark c : Char} (quote : isQuote mark = true) (other : isQuote c = false) : mark ≠ c := by
  rintro rfl
  exact Bool.false_ne_true (other.symm.trans quote)

private theorem quote_unpaired {mark first second : Char} {behind : List Char} (quote : isQuote mark = true)
    (other : isQuote first = false) : ¬ [first, second] <+: mark :: behind :=
  fun pair => quote_ne quote other (pair_iff.mp pair).1

/-- The first pass takes away the block comments, and inside of line comments what looks like one. -/
theorem withoutBlocks_kept {found : List Part} (fits : Throughout Part.Fits found)
    (inert : Throughout Part.Inert found) : withoutBlocks (found.flatMap Part.source) = found.flatMap Part.kept := by
  induction found with
  | nil => exact withoutBlocks.eq_1
  | cons part rest ih =>
    obtain ⟨fit, fits⟩ := fits
    obtain ⟨quiet, inert⟩ := inert
    simp only [List.flatMap_cons, ← ih fits inert]
    generalize rest.flatMap Part.source = behind at *
    cases part with
    | plain c => exact withoutBlocks_cons fit.2.2
    | quoted mark content =>
      simp only [Part.source, Part.kept, List.cons_append, List.append_assoc, List.nil_append]
      rw [withoutBlocks_cons (quote_unpaired fit.1 rfl), withoutBlocks_append quiet.2.2 (by simpa using quote_ne fit.1 rfl),
        withoutBlocks_cons (quote_unpaired fit.1 rfl)]
    | lineComment content =>
      simp only [Part.source, Part.kept, List.cons_append]
      rw [withoutBlocks_cons (by simp), withoutBlocks_cons (by simp), withoutBlocks_line fit.2 quiet]
    | blockComment content =>
      simp only [Part.source, List.cons_append, List.append_assoc, List.nil_append]
      exact withoutBlocks_comment fit

theorem lineFeeds_keeps {c : Char} {rest : List Char} (kept : ¬ ['\r', '\n'] <+: c :: rest) :
    lineFeeds (c :: rest) = c :: lineFeeds rest := if_neg kept

theorem lineFeeds_drops {c : Char} {rest : List Char} (dropped : ['\r', '\n'] <+: c :: rest) :
    lineFeeds (c :: rest) = lineFeeds rest := if_pos dropped

private theorem lineFeeds_head {text : List Char} {c : Char} (other : c ≠ '\n')
    (first : (lineFeeds text).head? = some c) :
    text.head? = some c := by
  cases text with
  | nil => exact first
  | cons d rest =>
    by_cases dropped : ['\r', '\n'] <+: d :: rest
    · obtain ⟨others, rfl, rfl⟩ := pair_begins dropped
      rw [lineFeeds_drops dropped, lineFeeds_keeps (by simp)] at first
      exact absurd (Option.some.inj first).symm other
    · rwa [lineFeeds_keeps dropped] at first

theorem lineFeeds_pair {first second c : Char} {text : List Char} (other : second ≠ '\n')
    (pair : [first, second] <+: c :: lineFeeds text) : [first, second] <+: c :: text :=
  pair_iff.mpr ((pair_iff.mp pair).imp_right (lineFeeds_head other))

theorem afterBlock_lineFeeds (text : List Char) : afterBlock (lineFeeds text) = (afterBlock text).map lineFeeds := by
  induction text with
  | nil => rfl
  | cons c rest ih =>
    by_cases ends : ['*', '/'] <+: c :: rest
    · obtain ⟨others, rfl, rfl⟩ := pair_begins ends
      rw [lineFeeds_keeps (by simp), lineFeeds_keeps (by simp)]
      rfl
    · rw [afterBlock_cons ends]
      by_cases dropped : ['\r', '\n'] <+: c :: rest
      · rw [lineFeeds_drops dropped, ih]
      · rw [lineFeeds_keeps dropped, afterBlock_cons fun pair => ends (lineFeeds_pair (by decide) pair), ih]

theorem withoutBlocks_lineEnd {c : Char} (text : List Char) :
    ['\r', '\n'] <+: c :: withoutBlocks text ↔ ['\r', '\n'] <+: c :: text := by
  rw [pair_iff, pair_iff]
  fun_cases withoutBlocks text <;> simp

/-- It does not matter whether line ends are made alike before or after the block comments go, since what is dropped or put
in between never makes a new mark out of two characters. -/
theorem lineFeeds_withoutBlocks (text : List Char) :
    lineFeeds (withoutBlocks text) = withoutBlocks (lineFeeds text) := by
  fun_induction withoutBlocks text with
  | case1 => exact withoutBlocks.eq_1.symm
  | case2 rest after found _ ih =>
    rw [lineFeeds_keeps (by simp), lineFeeds_keeps (by simp), lineFeeds_keeps (by simp),
      withoutBlocks_comment (by rw [afterBlock_lineFeeds, found]; rfl), ih]
  | case3 rest found =>
    rw [lineFeeds_keeps (by simp), lineFeeds_keeps (by simp),
      withoutBlocks_open (by rw [afterBlock_lineFeeds, found]; rfl)]
  | case4 c rest plain ih =>
    have apart : ¬ ['/', '*'] <+: c :: lineFeeds rest :=
      fun pair => not_pair_iff.mpr plain (lineFeeds_pair (by decide) pair)
    by_cases dropped : ['\r', '\n'] <+: c :: rest
    · rw [lineFeeds_drops ((withoutBlocks_lineEnd rest).mpr dropped), lineFeeds_drops dropped, ih]
    · rw [lineFeeds_keeps fun pair => dropped ((withoutBlocks_lineEnd rest).mp pair), lineFeeds_keeps dropped,
        withoutBlocks_cons apart, ih]

theorem split_eq_splitOn (mark : Char) (text : List Char) : Text.split mark text = text.splitOn mark := by
  induction text with
  | nil => rfl
  | cons c rest ih =>
    obtain ⟨piece, others, pieces⟩ := List.exists_cons_of_ne_nil (List.splitOn_ne_nil mark rest)
    rw [List.splitOn_cons_eq_if_modifyHead, Text.split, ih, pieces]
    simp

/-- There is at most one more piece than there are lines, an empty one behind the last line feed. -/
theorem lines_splitOn (text : List Char) : (lineFeeds text).splitOn '\n' = Text.lines text ∨
    (lineFeeds text).splitOn '\n' = Text.lines text ++ [[]] := by
  fun_induction Text.lines text with
  | case1 => exact .inr rfl
  | case2 rest ih =>
    rw [lineFeeds_keeps (by simp), List.splitOn_cons_eq_if_modifyHead]
    simpa using ih
  | case3 rest ih =>
    rw [lineFeeds_drops (by simp), lineFeeds_keeps (by simp), List.splitOn_cons_eq_if_modifyHead]
    simpa using ih
  | case4 c rest noFeed noReturn last ih =>
    rw [last] at ih
    have one : (lineFeeds rest).splitOn '\n' = [[]] := ih.resolve_left (List.splitOn_ne_nil _ _)
    rw [lineFeeds_keeps (not_pair_iff.mpr noReturn), List.splitOn_cons_eq_if_modifyHead, if_neg (by simpa using noFeed), one]
    exact .inl rfl
  | case5 c rest noFeed noReturn line others found ih =>
    rw [lineFeeds_keeps (not_pair_iff.mpr noReturn), List.splitOn_cons_eq_if_modifyHead, if_neg (by simpa using noFeed)]
    rw [found] at ih
    exact ih.imp (fun same => by rw [same]; rfl) (fun same => by rw [same]; rfl)

def uncommented (text : List Char) : List Char := ['\n'].intercalate ((text.splitOn '\n').map beforeDashes)

theorem uncommented_cons {c : Char} {behind : List Char} (apart : ¬ ['-', '-'] <+: c :: behind) :
    uncommented (c :: behind) = c :: uncommented behind := by
  obtain ⟨line, others, lines⟩ := List.exists_cons_of_ne_nil (List.splitOn_ne_nil '\n' behind)
  unfold uncommented
  rw [List.splitOn_cons_eq_if_modifyHead, lines]
  by_cases feed : c = '\n'
  · subst feed
    rfl
  · have whole : ['\n'].intercalate (behind.splitOn '\n') = behind := List.intercalate_splitOn '\n'
    rw [lines] at whole
    have cut : beforeDashes (c :: line) = c :: beforeDashes line := by
      rw [beforeDashes]
      rintro rest rfl rfl
      refine apart (pair_iff.mpr ⟨rfl, ?_⟩)
      rw [← whole]
      cases others <;> rfl
    rw [if_neg (by simpa using feed), List.modifyHead_cons, List.map_cons, cut]
    cases others <;> rfl

theorem uncommented_comment {content behind : List Char} (unbroken : '\n' ∉ content)
    (ended : behind = [] ∨ behind.head? = some '\n') :
    uncommented ('-' :: '-' :: (content ++ behind)) = uncommented behind := by
  have line : '\n' ∉ '-' :: '-' :: content := by simpa using unbroken
  obtain rfl | feed := ended
  · simp only [uncommented, List.append_nil, List.splitOn_eq_singleton line]
    rfl
  · obtain ⟨rest, rfl⟩ := List.head?_eq_some_iff.mp feed
    have lines := List.splitOn_append_cons_self_of_not_mem line rest
    rw [List.cons_append, List.cons_append] at lines
    simp only [uncommented, lines, List.splitOn_cons_eq_if_modifyHead]
    rfl

/-- Text without two dashes stays, whatever comes behind it. -/
theorem uncommented_append {content behind : List Char} (undashed : ¬ ['-', '-'] <:+: content)
    (apart : behind.head? ≠ some '-') : uncommented (content ++ behind) = content ++ uncommented behind := by
  induction content with
  | nil => rfl
  | cons c content ih =>
    rw [List.infix_cons_iff, not_or] at undashed
    rw [List.cons_append, uncommented_cons fun pair => undashed.1 (pair_left apart pair), ih undashed.2]
    rfl

theorem kept_head {c : Char} (blank : c ≠ ' ') (slash : c ≠ '/') (found : List Part) :
    (found.flatMap Part.kept).head? = some c ↔ (found.flatMap Part.source).head? = some c := by
  cases found with
  | nil => rfl
  | cons part rest => cases part <;> simp [Part.kept, Part.source, blank.symm, slash.symm]

/-- The second pass cuts the line comments and nothing else. -/
theorem uncommented_kept {found : List Part} (fits : Throughout Part.Fits found)
    (inert : Throughout Part.Inert found) : uncommented (found.flatMap Part.kept) = found.flatMap Part.text := by
  induction found with
  | nil => rfl
  | cons part rest ih =>
    obtain ⟨fit, fits⟩ := fits
    obtain ⟨quiet, inert⟩ := inert
    have dash := kept_head (by decide : '-' ≠ ' ') (by decide) rest
    have feed := kept_head (by decide : '\n' ≠ ' ') (by decide) rest
    simp only [List.flatMap_cons, ← ih fits inert]
    cases part with
    | plain c => exact uncommented_cons fun pair => fit.2.1 (pair_iff.mpr ((pair_iff.mp pair).imp_right dash.mp))
    | quoted mark content =>
      simp only [Part.kept, Part.text, Part.source, List.cons_append, List.append_assoc, List.nil_append]
      rw [uncommented_cons (quote_unpaired fit.1 rfl), uncommented_append quiet.2.1 (by simpa using quote_ne fit.1 rfl),
        uncommented_cons (quote_unpaired fit.1 rfl)]
    | lineComment content =>
      have unbroken : '\n' ∉ withoutBlocks content :=
        fun member => (mem_withoutBlocks member).elim (by decide) fit.1
      refine uncommented_comment unbroken (fit.2.imp (fun last => ?_) feed.mpr)
      cases rest with
      | nil => rfl
      | cons part rest => cases part <;> simp [Part.source] at last
    | blockComment content => exact uncommented_cons (by simp)

theorem intercalate_blank (lines : List (List Char)) : ∃ ending, (ending = [] ∨ ending = ['\n']) ∧
    ['\n'].intercalate (lines ++ [[]]) = ['\n'].intercalate lines ++ ending := by
  induction lines with
  | nil => exact ⟨[], .inl rfl, rfl⟩
  | cons line rest ih =>
    cases rest with
    | nil => exact ⟨['\n'], .inr rfl, by simp [List.intercalate]⟩
    | cons next rest =>
      obtain ⟨ending, known, same⟩ := ih
      refine ⟨ending, known, ?_⟩
      simp only [List.cons_append, List.intercalate_cons_cons] at same ⊢
      rw [same]
      simp

theorem withoutComments_uncommented (text : List Char) : ∃ ending, (ending = [] ∨ ending = ['\n']) ∧
    uncommented (withoutBlocks (lineFeeds text)) = withoutComments text ++ ending := by
  rw [← lineFeeds_withoutBlocks]
  unfold uncommented withoutComments
  obtain same | longer := lines_splitOn (withoutBlocks text)
  · exact ⟨[], .inl rfl, by rw [same, List.append_nil]⟩
  · rw [longer, List.map_append]
    exact intercalate_blank _

private theorem trim_feed (text : List Char) : Text.trim (text ++ ['\n']) = Text.trim text := by
  have blank : Text.isBlank '\n' = true := by decide
  unfold Text.trim
  rw [List.dropWhile_append]
  split
  next empty =>
    have nothing : text.dropWhile Text.isBlank = [] := List.isEmpty_iff.mp empty
    rewrite [nothing, List.dropWhile_cons_of_pos blank]
    rfl
  next => simp [blank]

private theorem splitOn_before {mark : Char} {segment : List Char} (free : mark ∉ segment) (rest : List Char) :
    (segment ++ rest).splitOn mark = (rest.splitOn mark).modifyHead (segment ++ ·) := by
  obtain ⟨piece, others, pieces⟩ := List.exists_cons_of_ne_nil (List.splitOn_ne_nil mark rest)
  induction segment with
  | nil => rw [List.nil_append, pieces]; rfl
  | cons c segment ih =>
    simp only [List.mem_cons, not_or] at free
    rw [List.cons_append, List.splitOn_cons_eq_if_modifyHead, if_neg (by simpa using Ne.symm free.1), ih free.2, pieces]
    rfl

private theorem splitOn_behind {mark : Char} {segment : List Char} (free : mark ∉ segment) (text : List Char) :
    ∃ pieces last, text.splitOn mark = pieces ++ [last] ∧
      (text ++ segment).splitOn mark = pieces ++ [last ++ segment] := by
  induction text with
  | nil => exact ⟨[], [], rfl, List.splitOn_eq_singleton free⟩
  | cons c rest ih =>
    obtain ⟨pieces, last, before, after⟩ := ih
    simp only [List.cons_append, List.splitOn_cons_eq_if_modifyHead, before, after]
    split
    · exact ⟨[] :: pieces, last, rfl, rfl⟩
    · cases pieces with
      | nil => exact ⟨[], c :: last, rfl, rfl⟩
      | cons piece pieces => exact ⟨(c :: piece) :: pieces, last, rfl, rfl⟩

/-- A last line feed goes to the last piece, where it is trimmed away. -/
theorem trim_pieces (text : List Char) {ending : List Char} (known : ending = [] ∨ ending = ['\n']) :
    ((text ++ ending).splitOn ';').map Text.trim = (text.splitOn ';').map Text.trim := by
  obtain rfl | rfl := known
  · rw [List.append_nil]
  · obtain ⟨pieces, last, before, after⟩ := splitOn_behind (by decide : ';' ∉ ['\n']) text
    rw [before, after]
    simp only [List.map_append, List.map_cons, trim_feed]

theorem ends_iff {part : Part} : part.ends = true ↔ part = .plain ';' := by
  cases part <;> simp [Part.ends]

private theorem text_unended {part : Part} {behind : List Char} (fit : part.Fits behind) (quiet : part.Inert behind)
    (other : ¬ part.ends = true) : ';' ∉ part.text := by
  cases part with
  | plain c =>
    intro member
    exact other (beq_iff_eq.mpr (List.mem_singleton.mp member).symm)
  | quoted mark content =>
    have different : ';' ≠ mark := (quote_ne fit.1 rfl).symm
    simp [Part.text, Part.source, different, quiet.1]
  | lineComment content => exact List.not_mem_nil
  | blockComment content => simp [Part.text]

/-- The third pass cuts where statements end: no other semicolon is left. -/
theorem text_pieces {found : List Part} (fits : Throughout Part.Fits found) (inert : Throughout Part.Inert found) :
    (found.flatMap Part.text).splitOn ';' = (found.splitOnP Part.ends).map (·.flatMap Part.text) := by
  induction found with
  | nil => rfl
  | cons part rest ih =>
    obtain ⟨fit, fits⟩ := fits
    obtain ⟨quiet, inert⟩ := inert
    obtain ⟨piece, others, pieces⟩ := List.exists_cons_of_ne_nil (List.splitOnP_ne_nil Part.ends rest)
    rw [List.flatMap_cons, List.splitOnP_cons_eq_if_modifyHead]
    by_cases ends : part.ends = true
    · rw [if_pos ends, ends_iff.mp ends, List.map_cons, ← ih fits inert]
      exact List.splitOn_cons_eq_if_modifyHead ..
    · rw [if_neg ends, splitOn_before (text_unended fit quiet ends), ih fits inert, pieces]
      rfl

/-- Extraction finds what reading from left to right finds, in any text whose quotes and block comments are closed and
hold no mark for a pass that does not know them. -/
theorem extract_scanned {text : String} (clear : ∃ found ∈ parts text, Throughout Part.Inert found) :
    scanned text = some (extract text) := by
  obtain ⟨found, read, inert⟩ := clear
  obtain ⟨whole, fits⟩ := scanAll_fits read
  obtain ⟨ending, known, same⟩ := withoutComments_uncommented text.toList
  rw [whole, withoutBlocks_kept fits inert, uncommented_kept fits inert] at same
  have pieces : ((found.splitOnP Part.ends).map fun piece => Text.trim (piece.flatMap Part.text)) =
      (Text.split ';' (withoutComments text.toList)).map Text.trim := by
    calc (found.splitOnP Part.ends).map (fun piece => Text.trim (piece.flatMap Part.text))
      _ = ((found.flatMap Part.text).splitOn ';').map Text.trim := by rw [text_pieces fits inert, List.map_map]; rfl
      _ = ((withoutComments text.toList).splitOn ';').map Text.trim := by rw [same, trim_pieces _ known]
      _ = (Text.split ';' (withoutComments text.toList)).map Text.trim := by rw [split_eq_splitOn]
  rw [scanned, Option.mem_def.mp read, Option.map_some, statements, pieces]
  rfl

/-- Marks of every kind where they do no harm. The block comment that opens in the default never ends. -/
def clearText : String :=
  "/* '; -- */CREATE/*;*/TABLE t ( -- it's; /* \" */ x\r\n  a TEXT DEFAULT 'it''s /* - \"\r\n', -- /*\r\n  \"b c\" INT)\r\n;SELECT 1"

theorem extract_clearText : (∃ found ∈ parts clearText, Throughout Part.Inert found) ∧
    scanned clearText = some (extract clearText) ∧
    extract clearText = ["CREATE TABLE t ( \n  a TEXT DEFAULT 'it''s /* - \"\n', \n  \"b c\" INT);"] := by
  have clear : ∃ found ∈ parts clearText, Throughout Part.Inert found := by decide +kernel
  exact ⟨clear, extract_scanned clear, by decide +kernel⟩

/-- A mark in quoted text cuts a statement or joins two, and a block comment that leads out of a line comment hides what
the database would read. -/
theorem hidden_marks_lose :
    (scanned "CREATE TABLE a (b TEXT DEFAULT ';');" = some ["CREATE TABLE a (b TEXT DEFAULT ';');"] ∧
      extract "CREATE TABLE a (b TEXT DEFAULT ';');" = ["CREATE TABLE a (b TEXT DEFAULT ';"]) ∧
    (scanned "CREATE TABLE a (b TEXT DEFAULT '--');" = some ["CREATE TABLE a (b TEXT DEFAULT '--');"] ∧
      extract "CREATE TABLE a (b TEXT DEFAULT '--');" = ["CREATE TABLE a (b TEXT DEFAULT ';"]) ∧
    (scanned "CREATE TABLE \"/*\" (b INT);CREATE TABLE \"*/\" (b INT);" =
        some ["CREATE TABLE \"/*\" (b INT);", "CREATE TABLE \"*/\" (b INT);"] ∧
      extract "CREATE TABLE \"/*\" (b INT);CREATE TABLE \"*/\" (b INT);" = ["CREATE TABLE \" \" (b INT);"]) ∧
    (scanned "-- /*\nCREATE TABLE a (b INT);\n-- */" = some ["CREATE TABLE a (b INT);"] ∧
      extract "-- /*\nCREATE TABLE a (b INT);\n-- */" = []) := by
  decide +kernel

end Relmap.Ddl
