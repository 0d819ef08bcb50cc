import Mathlib.Data.List.DropRight
import Relmap.Proofs.SchemaScanning

/-! Extraction settles in one go. No pass over a schema file makes a mark out of what it leaves, and nothing that is left behind a
comment mark closes it, so statements that are written one below the other are extracted again as they are. -/

namespace Relmap

namespace Text

theorem trim_inside (text : List Char) : trim text <:+: text :=
  (List.rdropWhile_prefix isBlank (text.dropWhile isBlank)).isInfix.trans (List.dropWhile_suffix isBlank).isInfix

theorem trim_blank {c : Char} (blank : isBlank c = true) (text : List Char) : trim (c :: text) = trim text := by
  rw [trim, List.dropWhile_cons_of_pos blank]
  rfl

private theorem trim_trim (text : List Char) : trim (trim text) = trim text := by
  have front : (trim text).dropWhile isBlank = trim text := by
    obtain ⟨ending, whole⟩ := List.rdropWhile_prefix isBlank (text.dropWhile isBlank)
    change trim text ++ ending = _ at whole
    have first := List.head?_dropWhile_not isBlank text
    rw [← whole] at first
    cases kept : trim text with
    | nil => rfl
    | cons c rest =>
      rw [kept] at first
      exact List.dropWhile_cons_of_neg (by simpa using first)
  change ((trim text).dropWhile isBlank).rdropWhile isBlank = trim text
  rw [front]
  exact List.rdropWhile_idempotent isBlank (text.dropWhile isBlank)

/-- A mark behind trimmed text ends it. -/
theorem trim_marked {text : List Char} {mark : Char} (trimmed : trim text = text) (inked : isBlank mark = false) :
    trim (text ++ [mark]) = text ++ [mark] := by
  have front : (text ++ [mark]).dropWhile isBlank = text ++ [mark] := by
    cases text with
    | nil => exact List.dropWhile_cons_of_neg (by simp [inked])
    | cons c rest =>
      refine List.dropWhile_cons_of_neg fun blank => ?_
      rw [trim_blank blank] at trimmed
      have shorter := (trim_inside rest).length_le
      rw [trimmed, List.length_cons] at shorter
      omega
  change ((text ++ [mark]).dropWhile isBlank).rdropWhile isBlank = text ++ [mark]
  rw [front]
  exact List.rdropWhile_concat_neg isBlank text mark (by simp [inked])

end Text

namespace Ddl

theorem unpaired {first second c : Char} {behind : List Char} (other : c ≠ first) : ¬ [first, second] <+: c :: behind :=
  fun pair => other (pair_iff.mp pair).1

def Paired (text : List Char) : Prop := ∀ tail ∈ text.tails, ['\r'] <+: tail → ['\r', '\n'] <+: tail

instance (text : List Char) : Decidable (Paired text) :=
  inferInstanceAs (Decidable (∀ tail ∈ text.tails, ['\r'] <+: tail → ['\r', '\n'] <+: tail))

private theorem paired_lineFeeds {text : List Char} (paired : Paired text) : '\r' ∉ lineFeeds text := by
  induction text with
  | nil => exact List.not_mem_nil
  | cons c rest ih =>
    have inner : Paired rest := fun tail member => paired tail (List.mem_cons_of_mem _ member)
    by_cases dropped : ['\r', '\n'] <+: c :: rest
    · rw [lineFeeds_drops dropped]
      exact ih inner
    · rw [lineFeeds_keeps dropped, List.mem_cons, not_or]
      refine ⟨?_, ih inner⟩
      rintro rfl
      exact dropped (paired _ List.mem_cons_self ⟨rest, rfl⟩)

theorem opens_nil {behind : List Char} : ¬ Opens [] behind := by
  rintro ⟨tail, member, mark, -⟩
  rw [List.mem_singleton.mp member] at mark
  exact absurd mark.length_le (by decide)

theorem opens_cons {c : Char} {content behind : List Char} : Opens (c :: content) behind ↔
    ['/', '*'] <+: c :: content ∧ ['*', '/'] <:+: content.drop 1 ++ behind ∨ Opens content behind := by
  simp [Opens, List.tails]

theorem Opens.behind {c : Char} {content behind : List Char} (other : c ≠ '/') (opens : Opens (c :: content) behind) :
    Opens content behind := (opens_cons.mp opens).resolve_left fun begun => unpaired other begun.1

theorem Opens.inside {inner outer : List Char} (opens : Opens inner []) (inside : inner <:+: outer) : Opens outer [] := by
  obtain ⟨tail, member, mark, closed⟩ := opens
  obtain ⟨front, back, rfl⟩ := inside
  refine ⟨tail ++ back, ?_, mark.trans (List.prefix_append tail back), ?_⟩
  · obtain ⟨before, rfl⟩ := (List.mem_tails ..).mp member
    exact (List.mem_tails ..).mpr ⟨front ++ before, by simp⟩
  · rw [List.append_nil] at closed ⊢
    refine closed.trans ?_
    rw [List.drop_append_of_le_length (by simpa using mark.length_le)]
    exact (List.prefix_append _ back).isInfix

section Joined

variable {mark : Char}

theorem pair_joined {first second : Char} (one : mark ≠ first) (other : mark ≠ second) {left right : List Char} :
    [first, second] <:+: left ++ mark :: right ↔ [first, second] <:+: left ∨ [first, second] <:+: right := by
  induction left with
  | nil =>
    have apart : ¬ [first, second] <+: mark :: right := unpaired one
    simp [List.infix_cons_iff, apart]
  | cons c left ih =>
    have here : [first, second] <+: c :: (left ++ mark :: right) ↔ [first, second] <+: c :: left := by
      rw [pair_iff, pair_iff]
      cases left <;> simp [other]
    rw [List.cons_append, List.infix_cons_iff, List.infix_cons_iff, ih, here, or_assoc]

theorem opens_joined (slash : mark ≠ '/') (star : mark ≠ '*') {left right : List Char} :
    Opens (left ++ mark :: right) [] ↔
      Opens left [] ∨ ['/', '*'] <:+: left ∧ ['*', '/'] <:+: right ∨ Opens right [] := by
  induction left with
  | nil =>
    have apart : ¬ ['/', '*'] <+: mark :: right := unpaired slash
    simp [opens_cons, opens_nil, apart]
  | cons c left ih =>
    rw [List.cons_append, opens_cons, opens_cons, ih, List.infix_cons_iff]
    cases left with
    | nil =>
      have apart : ¬ ['/', '*'] <+: c :: mark :: right := fun pair => star (by simpa using (pair_iff.mp pair).2)
      have short : ¬ ['/', '*'] <+: [c] := fun pair => absurd pair.length_le (by simp)
      simp [apart, short, opens_nil]
    | cons d left =>
      have here : ['/', '*'] <+: c :: (d :: left ++ mark :: right) ↔ ['/', '*'] <+: c :: d :: left := by
        rw [pair_iff, pair_iff]
        rfl
      have closed : ['*', '/'] <:+: left ++ mark :: right ↔ ['*', '/'] <:+: left ∨ ['*', '/'] <:+: right :=
        pair_joined star slash
      rw [here]
      simp only [List.cons_append, List.drop_succ_cons, List.drop_zero, List.append_nil, closed]
      rw [and_or_left, or_and_right]
      simp only [or_assoc, or_left_comm]

end Joined

theorem pair_intercalate {mark first second : Char} (one : mark ≠ first) (other : mark ≠ second) {pieces : List (List Char)} :
    [first, second] <:+: [mark].intercalate pieces ↔ ∃ piece ∈ pieces, [first, second] <:+: piece := by
  induction pieces with
  | nil => simp [List.intercalate]
  | cons piece rest ih =>
    cases rest with
    | nil => simp [List.intercalate]
    | cons next rest =>
      rw [List.intercalate_cons_cons, List.append_assoc, List.singleton_append, pair_joined one other, ih]
      simp only [List.mem_cons, exists_eq_or_imp]

/-- No piece holds a block comment, and none that opens one stands before one that closes it. -/
structure Shut (pieces : List (List Char)) : Prop where
  each : ∀ piece ∈ pieces, ¬ Opens piece []
  across : pieces.Pairwise fun first later => ['/', '*'] <:+: first → ¬ ['*', '/'] <:+: later

theorem shut_intercalate {mark : Char} (slash : mark ≠ '/') (star : mark ≠ '*') {pieces : List (List Char)} :
    ¬ Opens ([mark].intercalate pieces) [] ↔ Shut pieces := by
  induction pieces with
  | nil => exact iff_of_true opens_nil ⟨fun _ member => absurd member List.not_mem_nil, .nil⟩
  | cons piece rest ih =>
    have split : Shut (piece :: rest) ↔
        ¬ Opens piece [] ∧ (['/', '*'] <:+: piece → ¬ ∃ later ∈ rest, ['*', '/'] <:+: later) ∧ Shut rest := by
      constructor
      · intro ⟨each, across⟩
        obtain ⟨own, others⟩ := List.forall_mem_cons.mp each
        obtain ⟨before, behind⟩ := List.pairwise_cons.mp across
        exact ⟨own, fun opened ⟨later, member, closed⟩ => before later member opened closed, others, behind⟩
      · intro ⟨own, before, others, behind⟩
        refine ⟨List.forall_mem_cons.mpr ⟨own, others⟩, List.pairwise_cons.mpr ⟨?_, behind⟩⟩
        exact fun later member opened closed => before opened ⟨later, member, closed⟩
    rw [split, ← ih]
    cases rest with
    | nil => simp [List.intercalate, opens_nil]
    | cons next rest =>
      rw [List.intercalate_cons_cons, List.append_assoc, List.singleton_append, opens_joined slash star,
        pair_intercalate star slash, not_or, not_or, not_and]

theorem Shut.sublist {pieces kept : List (List Char)} (shut : Shut pieces) (fewer : kept.Sublist pieces) : Shut kept :=
  ⟨fun piece member => shut.each piece (fewer.subset member), shut.across.sublist fewer⟩

theorem Shut.map {pieces : List (List Char)} {f : List Char → List Char} (shut : Shut pieces)
    (whole : ∀ piece, Opens (f piece) [] → Opens piece [])
    (pair : ∀ piece first second, ';' ≠ first → ';' ≠ second → [first, second] <:+: f piece → [first, second] <:+: piece) :
    Shut (pieces.map f) := by
  constructor
  case each => exact List.forall_mem_map.mpr fun piece member opens => shut.each piece member (whole piece opens)
  case across =>
    refine List.pairwise_map.mpr (shut.across.imp fun {first later} apart opened closed => ?_)
    exact apart (pair first _ _ (by decide) (by decide) opened) (pair later _ _ (by decide) (by decide) closed)

/-- A text in which no pass finds anything to take away. -/
structure Stripped (text : List Char) : Prop where
  noReturn : '\r' ∉ text
  undashed : ¬ ['-', '-'] <:+: text
  shut : ¬ Opens text []

theorem Stripped.inside {inner outer : List Char} (stripped : Stripped outer) (inside : inner <:+: outer) : Stripped inner :=
  ⟨fun member => stripped.noReturn (inside.subset member), fun dashes => stripped.undashed (dashes.trans inside),
    fun opens => stripped.shut (opens.inside inside)⟩

theorem Stripped.ended {text : List Char} (stripped : Stripped text) : Stripped (text ++ ['\n']) := by
  constructor
  case noReturn =>
    rw [List.mem_append, List.mem_singleton, not_or]
    exact ⟨stripped.noReturn, by decide⟩
  case undashed =>
    rw [pair_joined (by decide) (by decide), not_or]
    exact ⟨stripped.undashed, by simp⟩
  case shut =>
    rw [opens_joined (by decide) (by decide), not_or, not_or]
    exact ⟨stripped.shut, by simp, opens_nil⟩

private theorem lineFeeds_same {text : List Char} (noReturn : '\r' ∉ text) : lineFeeds text = text := by
  induction text with
  | nil => rfl
  | cons c rest ih =>
    rw [List.mem_cons, not_or] at noReturn
    rw [lineFeeds_keeps (unpaired (Ne.symm noReturn.1)), ih noReturn.2]

/-- Only the semicolons count in text that is stripped. -/
theorem declarations_stripped {text : List Char} (stripped : Stripped text) : declarations text =
    ((text.splitOn ';').map Text.trim).filter fun statement => !statement.isEmpty && declares statement := by
  have blocks : withoutBlocks text = text := by
    have kept : withoutBlocks (text ++ []) = text ++ withoutBlocks [] := withoutBlocks_append stripped.shut (by simp)
    rwa [withoutBlocks, List.append_nil] at kept
  have dashes : uncommented text = text := by
    have kept : uncommented (text ++ []) = text ++ uncommented [] := uncommented_append stripped.undashed (by simp)
    rwa [show uncommented [] = [] from rfl, List.append_nil] at kept
  obtain ⟨ending, known, same⟩ := withoutComments_uncommented text
  rw [lineFeeds_same stripped.noReturn, blocks, dashes] at same
  rw [declarations, split_eq_splitOn, ← trim_pieces (withoutComments text) known, ← same]

/-- What the second pass leaves, from left to right. -/
theorem uncommented_induction {holds : List Char → Prop} (nothing : holds [])
    (plain : ∀ c behind, ¬ ['-', '-'] <+: c :: behind → holds behind → holds (c :: behind))
    (comment : ∀ content behind, '\n' ∉ content → (behind = [] ∨ behind.head? = some '\n') → holds behind →
      holds ('-' :: '-' :: (content ++ behind))) (text : List Char) : holds text := by
  match text with
  | [] => exact nothing
  | c :: behind =>
    by_cases dashed : ['-', '-'] <+: c :: behind
    · obtain ⟨others, first, second⟩ := pair_begins dashed
      obtain ⟨rest, whole, unbroken, ended⟩ := cut_at '\n' others
      have shorter : rest.length < behind.length + 1 := by
        have lengths := congrArg List.length whole
        rw [List.length_append] at lengths
        rw [second, List.length_cons]
        omega
      rw [first, second, whole]
      exact comment _ rest unbroken ended (uncommented_induction nothing plain comment rest)
    · exact plain c behind dashed (uncommented_induction nothing plain comment behind)
termination_by text.length

theorem uncommented_nil : uncommented [] = [] := rfl

private theorem uncommented_head {text : List Char} {c : Char} (other : c ≠ '\n')
    (first : (uncommented text).head? = some c) :
    text.head? = some c := by
  induction text using uncommented_induction with
  | nothing => exact first
  | plain d behind apart _ => rwa [uncommented_cons apart] at first
  | comment content behind unbroken ended _ =>
    rw [uncommented_comment unbroken ended] at first
    obtain rfl | feed := ended
    · cases first
    · obtain ⟨rest, rfl⟩ := List.head?_eq_some_iff.mp feed
      rw [uncommented_cons (unpaired (by decide))] at first
      exact absurd (Option.some.inj first).symm other

theorem uncommented_pair {first second c : Char} {behind : List Char} (other : second ≠ '\n')
    (pair : [first, second] <+: c :: uncommented behind) : [first, second] <+: c :: behind :=
  pair_iff.mpr ((pair_iff.mp pair).imp_right (uncommented_head other))

private theorem mem_uncommented {text : List Char} {c : Char} (member : c ∈ uncommented text) : c ∈ text := by
  induction text using uncommented_induction with
  | nothing => exact member
  | plain d behind apart ih =>
    rw [uncommented_cons apart] at member
    exact (List.mem_cons.mp member).elim (fun same => same ▸ List.mem_cons_self) fun later => List.mem_cons_of_mem d (ih later)
  | comment content behind unbroken ended ih =>
    rw [uncommented_comment unbroken ended] at member
    exact List.mem_cons_of_mem _ (List.mem_cons_of_mem _ (List.mem_append_right content (ih member)))

private theorem uncommented_undashed (text : List Char) : ¬ ['-', '-'] <:+: uncommented text := by
  induction text using uncommented_induction with
  | nothing => simp [uncommented_nil]
  | plain c behind apart ih =>
    rw [uncommented_cons apart, List.infix_cons_iff, not_or]
    exact ⟨fun pair => apart (uncommented_pair (by decide) pair), ih⟩
  | comment content behind unbroken ended ih => rwa [uncommented_comment unbroken ended]

private theorem infix_uncommented {first second : Char} {text : List Char} (other : second ≠ '\n')
    (inside : [first, second] <:+: uncommented text) : [first, second] <:+: text := by
  induction text using uncommented_induction with
  | nothing => exact inside
  | plain c behind apart ih =>
    rw [uncommented_cons apart, List.infix_cons_iff] at inside
    exact List.infix_cons_iff.mpr (inside.imp (uncommented_pair other) ih)
  | comment content behind unbroken ended ih =>
    rw [uncommented_comment unbroken ended] at inside
    exact (ih inside).trans (List.suffix_append ('-' :: '-' :: content) behind).isInfix

/-- Cutting the line comments never makes a block comment. -/
theorem opens_uncommented {text : List Char} (opens : Opens (uncommented text) []) : Opens text [] := by
  induction text using uncommented_induction with
  | nothing => exact opens
  | plain c behind apart ih =>
    rw [uncommented_cons apart, opens_cons] at opens
    refine opens_cons.mpr (opens.imp (fun ⟨pair, closed⟩ => ?_) ih)
    have begins := uncommented_pair (by decide) pair
    obtain ⟨rest, rfl, rfl⟩ := pair_begins begins
    rw [uncommented_cons (unpaired (by decide))] at closed
    exact ⟨begins, by simpa using infix_uncommented (by decide) (by simpa using closed)⟩
  | comment content behind unbroken ended ih =>
    rw [uncommented_comment unbroken ended] at opens
    exact (ih opens).inside (List.suffix_append ('-' :: '-' :: content) behind).isInfix

private theorem afterBlock_open {text : List Char} (open' : afterBlock text = none) : ¬ ['*', '/'] <:+: text := by
  induction text with
  | nil => simp
  | cons c rest ih =>
    by_cases ends : ['*', '/'] <+: c :: rest
    · obtain ⟨others, rfl, rfl⟩ := pair_begins ends
      cases open'
    · rw [afterBlock_cons ends] at open'
      rw [List.infix_cons_iff, not_or]
      exact ⟨ends, ih open'⟩

theorem Opens.closes {content : List Char} (opens : Opens content []) : ['*', '/'] <:+: content := by
  obtain ⟨tail, member, -, closed⟩ := opens
  rw [List.append_nil] at closed
  exact closed.trans ((List.drop_suffix 2 tail).trans ((List.mem_tails ..).mp member)).isInfix

private theorem withoutBlocks_head {text : List Char} {c : Char} (other : c ≠ ' ')
    (first : (withoutBlocks text).head? = some c) :
    text.head? = some c := by
  revert first
  fun_cases withoutBlocks text <;> simp [other.symm]

/-- No block comment is left: those that are closed are gone, and behind one that is not nothing closes. -/
theorem withoutBlocks_shut (text : List Char) : ¬ Opens (withoutBlocks text) [] := by
  fun_induction withoutBlocks text with
  | case1 => exact opens_nil
  | case2 rest after found _ ih => exact fun opens => ih (opens.behind (by decide))
  | case3 rest found =>
    have unclosed := afterBlock_open found
    rw [opens_cons, not_or, not_and]
    exact ⟨fun _ closed => unclosed (by simpa using closed), fun opens => unclosed (opens.behind (by decide)).closes⟩
  | case4 c rest plain ih =>
    rw [opens_cons, not_or, not_and]
    refine ⟨fun pair _ => not_pair_iff.mpr plain (pair_iff.mpr ?_), ih⟩
    exact (pair_iff.mp pair).imp_right (withoutBlocks_head (by decide))

theorem withoutComments_stripped {text : List Char} (paired : Paired text) : Stripped (withoutComments text) := by
  have whole : Stripped (uncommented (withoutBlocks (lineFeeds text))) := by
    constructor
    case noReturn =>
      intro member
      obtain space | kept := mem_withoutBlocks (mem_uncommented member)
      · exact absurd space (by decide)
      · exact paired_lineFeeds paired kept
    case undashed => exact uncommented_undashed _
    case shut => exact fun opens => withoutBlocks_shut _ (opens_uncommented opens)
  obtain ⟨ending, -, same⟩ := withoutComments_uncommented text
  rw [same] at whole
  exact whole.inside (List.prefix_append _ ending).isInfix

private theorem infix_intercalate {mark : Char} {piece : List Char} {pieces : List (List Char)}
    (member : piece ∈ pieces) :
    piece <:+: [mark].intercalate pieces := by
  induction pieces with
  | nil => exact absurd member List.not_mem_nil
  | cons first rest ih =>
    cases rest with
    | nil =>
      rw [List.mem_singleton.mp member]
      simp [List.intercalate]
    | cons next rest =>
      rw [List.intercalate_cons_cons, List.append_assoc]
      obtain rfl | later := List.mem_cons.mp member
      · exact (List.prefix_append ..).isInfix
      · exact (ih later).trans ((List.suffix_append ..).trans (List.suffix_append ..)).isInfix

private theorem mem_intercalate {mark c : Char} {pieces : List (List Char)} (member : c ∈ [mark].intercalate pieces) :
    c = mark ∨ ∃ piece ∈ pieces, c ∈ piece := by
  induction pieces with
  | nil => exact absurd member List.not_mem_nil
  | cons first rest ih =>
    cases rest with
    | nil => exact .inr ⟨first, List.mem_cons_self, by simpa [List.intercalate] using member⟩
    | cons next rest =>
      simp only [List.intercalate_cons_cons, List.mem_append, List.mem_singleton, or_assoc] at member
      obtain own | same | later := member
      · exact .inr ⟨first, List.mem_cons_self, own⟩
      · exact .inl same
      · exact (ih later).imp_right fun ⟨piece, inside, has⟩ => ⟨piece, List.mem_cons_of_mem first inside, has⟩

private theorem splitOn_free {mark : Char} {text piece : List Char} (member : piece ∈ text.splitOn mark) :
    mark ∉ piece := by
  induction text generalizing piece with
  | nil =>
    rw [List.mem_singleton.mp member]
    exact List.not_mem_nil
  | cons c rest ih =>
    rw [List.splitOn_cons_eq_if_modifyHead] at member
    split at member
    next => exact (List.mem_cons.mp member).elim (fun empty => empty ▸ List.not_mem_nil) ih
    next other =>
      obtain ⟨first, others, pieces⟩ := List.exists_cons_of_ne_nil (List.splitOn_ne_nil mark rest)
      rw [pieces] at member ih
      obtain rfl | later := List.mem_cons.mp member
      · rw [List.mem_cons, not_or]
        exact ⟨fun same => other (beq_iff_eq.mpr same.symm), ih List.mem_cons_self⟩
      · exact ih (List.mem_cons_of_mem first later)

theorem mem_declarations {text statement : List Char} (member : statement ∈ declarations text) :
    (∃ piece ∈ (withoutComments text).splitOn ';', Text.trim piece = statement) ∧ statement ≠ [] ∧
      declares statement = true := by
  rw [declarations, split_eq_splitOn] at member
  obtain ⟨inside, kept⟩ := List.mem_filter.mp member
  rw [Bool.and_eq_true, Bool.not_eq_true', List.isEmpty_eq_false_iff] at kept
  exact ⟨List.mem_map.mp inside, kept⟩

/-- What a statement is like once it is extracted. Up to its end it is text of the file that no pass has a use for. -/
structure IsDeclaration (statement : List Char) : Prop where
  trimmed : Text.trim statement = statement
  ended : ∃ body, statement = body ++ [';'] ∧ ';' ∉ body
  undashed : ¬ ['-', '-'] <:+: statement
  shut : ¬ Opens statement []
  headed : ∃ head ∈ heads, head.toList <:+: Text.lower (statement.take headLength)

theorem pair_ended {first second : Char} (one : ';' ≠ first) (other : ';' ≠ second) {body : List Char}
    (inside : [first, second] <:+: body ++ [';']) : [first, second] <:+: body :=
  ((pair_joined one other).mp inside).resolve_right (by simp)

theorem opens_ended {body : List Char} (opens : Opens (body ++ [';']) []) : Opens body [] := by
  obtain own | ⟨-, closed⟩ | none := (opens_joined (by decide) (by decide)).mp opens
  · exact own
  · exact absurd closed (by simp)
  · exact absurd none opens_nil

private theorem declares_ended {body : List Char} (declared : declares body = true) :
    ∃ head ∈ heads, head.toList <:+: Text.lower ((body ++ [';']).take headLength) := by
  obtain ⟨head, member, mentioned⟩ := List.any_eq_true.mp declared
  refine ⟨head, member, (Text.mentions_iff.mp mentioned).trans ?_⟩
  rw [List.take_append, Text.lower, Text.lower, List.map_append]
  exact (List.prefix_append ..).isInfix

theorem declaration_stripped {text body : List Char} (paired : Paired text) (member : body ∈ declarations text) :
    Stripped (body ++ [';']) := by
  obtain ⟨⟨piece, inside, rfl⟩, -, -⟩ := mem_declarations member
  have part : Text.trim piece <:+: withoutComments text := by
    have among := (Text.trim_inside piece).trans (@infix_intercalate ';' _ _ inside)
    rwa [List.intercalate_splitOn] at among
  have stripped := (withoutComments_stripped paired).inside part
  constructor
  case noReturn =>
    rw [List.mem_append, List.mem_singleton, not_or]
    exact ⟨stripped.noReturn, by decide⟩
  case undashed => exact fun dashes => stripped.undashed (pair_ended (by decide) (by decide) dashes)
  case shut => exact fun opens => stripped.shut (opens_ended opens)

theorem declaration_free {text body : List Char} (member : body ∈ declarations text) : ';' ∉ body := by
  obtain ⟨⟨piece, inside, rfl⟩, -, -⟩ := mem_declarations member
  exact fun within => splitOn_free inside ((Text.trim_inside piece).subset within)

theorem declaration_trimmed {text body : List Char} (member : body ∈ declarations text) : Text.trim body = body := by
  obtain ⟨⟨piece, -, rfl⟩, -, -⟩ := mem_declarations member
  exact Text.trim_trim piece

private theorem declaration_settled {text body : List Char} (paired : Paired text) (member : body ∈ declarations text) :
    IsDeclaration (body ++ [';']) where
  trimmed := Text.trim_marked (declaration_trimmed member) (by decide)
  ended := ⟨body, rfl, declaration_free member⟩
  undashed := (declaration_stripped paired member).undashed
  shut := (declaration_stripped paired member).shut
  headed := declares_ended (mem_declarations member).2.2

/-- Leaving out what declares nothing does not bring a comment mark before the end of another comment. -/
theorem declarations_shut {text : List Char} (paired : Paired text) :
    Shut ((declarations text).map (· ++ [';'])) := by
  have pieces : Shut ((withoutComments text).splitOn ';') := by
    refine (@shut_intercalate ';' (by decide) (by decide) _).mp ?_
    rw [List.intercalate_splitOn]
    exact (withoutComments_stripped paired).shut
  have trimmed : Shut ((((withoutComments text).splitOn ';').map Text.trim).map (· ++ [';'])) := by
    rw [List.map_map]
    apply pieces.map
    case whole => exact fun piece opens => (opens_ended opens).inside (Text.trim_inside piece)
    case pair => exact fun piece _ _ one other inside => (pair_ended one other inside).trans (Text.trim_inside piece)
  rw [declarations, split_eq_splitOn]
  exact trimmed.sublist (List.filter_sublist.map _)

private theorem stripped_below {statements : List (List Char)} (each : ∀ statement ∈ statements, Stripped statement)
    (shut : Shut statements) : Stripped (['\n'].intercalate statements) := by
  constructor
  case noReturn =>
    intro member
    obtain feed | ⟨statement, inside, has⟩ := mem_intercalate member
    · exact absurd feed (by decide)
    · exact (each statement inside).noReturn has
  case undashed =>
    rw [pair_intercalate (by decide) (by decide)]
    exact fun ⟨statement, inside, dashes⟩ => (each statement inside).undashed dashes
  case shut => exact (shut_intercalate (by decide) (by decide)).mpr shut

/-- A line feed behind each line, or only between them. -/
theorem printed_below (lines : List (List Char)) : ∃ ending, (ending = [] ∨ ending = ['\n']) ∧
    lines.flatMap (· ++ ['\n']) = ['\n'].intercalate lines ++ ending := by
  have ended : ['\n'].intercalate (lines ++ [[]]) = lines.flatMap (· ++ ['\n']) := by
    induction lines with
    | nil => rfl
    | cons first rest ih =>
      obtain ⟨next, others, more⟩ : ∃ next others, rest ++ [[]] = next :: others :=
        List.exists_cons_of_ne_nil (by simp)
      rw [List.cons_append, more, List.intercalate_cons_cons, ← more, ih, List.flatMap_cons]
  rw [← ended]
  exact intercalate_blank lines

/-- The line feed before a statement is trimmed away. -/
theorem pieces_below {bodies : List (List Char)} (free : ∀ body ∈ bodies, ';' ∉ body)
    (trimmed : ∀ body ∈ bodies, Text.trim body = body) :
    (((bodies.map (· ++ [';'])).flatMap (· ++ ['\n'])).splitOn ';').map Text.trim = bodies ++ [[]] := by
  induction bodies with
  | nil => rfl
  | cons body rest ih =>
    obtain ⟨own, others⟩ := List.forall_mem_cons.mp free
    obtain ⟨tight, behind⟩ := List.forall_mem_cons.mp trimmed
    have feed (pieces : List (List Char)) :
        (pieces.modifyHead (List.cons '\n')).map Text.trim = pieces.map Text.trim := by
      cases pieces with
      | nil => rfl
      | cons piece pieces =>
        rw [List.modifyHead_cons, List.map_cons, List.map_cons, Text.trim_blank (by decide)]
    rw [List.map_cons, List.flatMap_cons, List.append_assoc, List.append_assoc, List.singleton_append,
      List.splitOn_append_cons_self_of_not_mem own, List.map_cons, tight, List.singleton_append,
      List.splitOn_cons_eq_if_modifyHead, if_neg (by decide), feed, ih others behind]
    rfl

/-- Statements below each other are found again, whether or not a line feed stands behind the last one. -/
theorem declarations_below {text ending : List Char} (paired : Paired text) (known : ending = [] ∨ ending = ['\n']) :
    declarations (['\n'].intercalate ((declarations text).map (· ++ [';'])) ++ ending) = declarations text := by
  have stripped : Stripped (['\n'].intercalate ((declarations text).map (· ++ [';']))) :=
    stripped_below (List.forall_mem_map.mpr fun _ member => declaration_stripped paired member) (declarations_shut paired)
  have whole : Stripped (['\n'].intercalate ((declarations text).map (· ++ [';'])) ++ ending) := by
    obtain rfl | rfl := known
    · rwa [List.append_nil]
    · exact stripped.ended
  have kept : (declarations text).filter (fun statement => !statement.isEmpty && declares statement) = declarations text :=
    List.filter_eq_self.mpr fun _ member => (List.mem_filter.mp member).2
  have pieces := @pieces_below (declarations text) (fun _ member => declaration_free member)
    fun _ member => declaration_trimmed member
  obtain ⟨last, closing, printed⟩ := printed_below ((declarations text).map (· ++ [';']))
  rw [printed, trim_pieces _ closing] at pieces
  rw [declarations_stripped whole, trim_pieces _ known, pieces, List.filter_append, kept]
  exact List.append_nil _

/-- Extraction settles: what is extracted from a file whose carriage returns all end lines is extracted again, in the same
order, from the statements below each other and from the text that shows them line by line. -/
theorem extract_settled {text : String} (paired : Paired text.toList) :
    extract ("\n".intercalate (extract text)) = extract text ∧
    extract (String.join ((extract text).map (· ++ "\n"))) = extract text ∧
    ∀ statement ∈ extract text, IsDeclaration statement.toList := by
  have lines : (extract text).map String.toList = (declarations text.toList).map (· ++ [';']) := by
    simp [extract]
  have between : ("\n".intercalate (extract text)).toList =
      ['\n'].intercalate ((declarations text.toList).map (· ++ [';'])) ++ [] := by
    rw [String.toList_intercalate, lines, List.append_nil]
    rfl
  obtain ⟨ending, known, printed⟩ := printed_below ((declarations text.toList).map (· ++ [';']))
  have behind : (String.join ((extract text).map (· ++ "\n"))).toList =
      ['\n'].intercalate ((declarations text.toList).map (· ++ [';'])) ++ ending := by
    rw [← printed, ← lines, String.toList_join, List.flatMap_map, List.flatMap_map]
    simp
  refine ⟨?_, ?_, fun statement member => ?_⟩
  · rw [extract, between, declarations_below paired (.inl rfl), extract]
  · rw [extract, behind, declarations_below paired known, extract]
  · obtain ⟨body, inside, same⟩ : ∃ body ∈ declarations text.toList, body ++ [';'] = statement.toList := by
      rw [← List.mem_map, ← lines]
      exact List.mem_map_of_mem member
    rw [← same]
    exact declaration_settled paired inside

/-- A carriage return elsewhere may come to stand at a line's end, and then it goes with the second extraction. -/
example : extract "create table a (b\r--\n)" = ["create table a (b\r\n);"] ∧
    extract "create table a (b\r\n);" = ["create table a (b\n);"] := by decide +kernel

def unsettledText : String :=
  "create table a (\r\n  x int, -- x; */\r\n  y /* ; */ text\r\n) ;select */ 1; ;\n\nAlter Table a add /* z;*\r\n/;\tcreate index i on a(x)"

theorem extract_settled_unclosed : Paired unsettledText.toList ∧
    extract unsettledText = ["create table a (\n  x int, \n  y   text\n);", "Alter Table a add /* z;", "create index i on a(x);"] ∧
    extract ("\n".intercalate (extract unsettledText)) = extract unsettledText ∧
    extract (String.join ((extract unsettledText).map (· ++ "\n"))) = extract unsettledText ∧
    ∀ statement ∈ extract unsettledText, IsDeclaration statement.toList := by
  have paired : Paired unsettledText.toList := by decide +kernel
  exact ⟨paired, by decide +kernel, extract_settled paired⟩

end Ddl

end Relmap
