import Relmap.Proofs.ConditionReading
import Relmap.Text.Mention
import Mathlib.Data.List.Infix

/-! Patterns of LIKE, and the conditions that look for a text at the front of another, at its back or anywhere in it.
They bind the text as a part of the pattern, so its percent signs and underscores are wildcards there as anywhere else. -/

namespace Relmap

namespace Pattern

/-- Whether a text matches a pattern. A percent sign stands for any run of characters, an underscore for any one
character, and every other character for itself, an ASCII letter in either case. -/
def accepts : List Char → List Char → Bool
  | [], content => content.isEmpty
  | '%' :: pattern, content => content.tails.any (accepts pattern)
  | _ :: _, [] => false
  | c :: pattern, first :: rest => (c == '_' || c.toLower == first.toLower) && accepts pattern rest

def isWildcard (c : Char) : Bool := c == '%' || c == '_'

theorem accepts_nil {content : List Char} : accepts [] content = true ↔ content = [] := by
  rw [accepts, List.isEmpty_iff]

theorem accepts_run {pattern content : List Char} : accepts ('%' :: pattern) content = true ↔
    ∃ front behind, content = front ++ behind ∧ accepts pattern behind = true := by
  rw [accepts, List.any_eq_true]
  constructor
  · rintro ⟨behind, suffix, accepted⟩
    obtain ⟨front, rfl⟩ := (List.mem_tails behind content).mp suffix
    exact ⟨front, behind, rfl, accepted⟩
  · rintro ⟨front, behind, rfl, accepted⟩
    exact ⟨behind, (List.mem_tails _ _).mpr (List.suffix_append front behind), accepted⟩

theorem accepts_one {c : Char} (single : c ≠ '%') {pattern content : List Char} : accepts (c :: pattern) content = true ↔
    ∃ first rest, content = first :: rest ∧ (c = '_' ∨ c.toLower = first.toLower) ∧ accepts pattern rest = true := by
  cases content with
  | nil => simp [accepts]
  | cons first rest => simp [accepts]

/-- A pattern of two parts matches what can be cut so that each part matches its piece. -/
theorem accepts_append {first second content : List Char} : accepts (first ++ second) content = true ↔
    ∃ front behind, content = front ++ behind ∧ accepts first front = true ∧ accepts second behind = true := by
  induction first generalizing content with
  | nil => simp [accepts_nil]
  | cons c first ih =>
    rw [List.cons_append]
    by_cases run : c = '%'
    · subst run
      simp only [accepts_run, ih]
      constructor
      · rintro ⟨skipped, _, rfl, front, behind, rfl, own, others⟩
        exact ⟨skipped ++ front, behind, by simp, ⟨skipped, front, rfl, own⟩, others⟩
      · rintro ⟨_, behind, rfl, ⟨skipped, front, rfl, own⟩, others⟩
        exact ⟨skipped, front ++ behind, by simp, front, behind, rfl, own, others⟩
    · simp only [accepts_one run, ih]
      constructor
      · rintro ⟨d, _, rfl, same, front, behind, rfl, own, others⟩
        exact ⟨d :: front, behind, rfl, ⟨d, front, rfl, same, own⟩, others⟩
      · rintro ⟨_, behind, rfl, ⟨d, front, rfl, same, own⟩, others⟩
        exact ⟨d, front ++ behind, rfl, same, front, behind, rfl, own, others⟩

example : accepts "b%n__".toList "Bernie".toList = true := by decide

theorem accepts_anything (content : List Char) : accepts ['%'] content = true :=
  accepts_run.mpr ⟨content, [], by simp, rfl⟩

/-- Every text matches itself, also one with wildcards. -/
theorem accepts_alike {text content : List Char} (alike : Text.lower text = Text.lower content) :
    accepts text content = true := by
  induction text generalizing content with
  | nil => exact accepts_nil.mpr (List.map_eq_nil_iff.mp alike.symm)
  | cons c text ih =>
    obtain ⟨first, rest, rfl, same, others⟩ := List.map_eq_cons_iff.mp alike.symm
    by_cases run : c = '%'
    · subst run
      exact accepts_run.mpr ⟨[first], rest, rfl, ih others.symm⟩
    · exact (accepts_one run).mpr ⟨first, rest, rfl, .inr same.symm, ih others.symm⟩

private theorem accepts_plain {text content : List Char} (plain : ∀ c ∈ text, isWildcard c = false) :
    accepts text content = true ↔ Text.lower text = Text.lower content := by
  refine ⟨fun accepted => ?_, accepts_alike⟩
  induction text generalizing content with
  | nil => rw [accepts_nil.mp accepted]
  | cons c text ih =>
    obtain ⟨own, others⟩ := List.forall_mem_cons.mp plain
    simp only [isWildcard, Bool.or_eq_false_iff, beq_eq_false_iff_ne] at own
    obtain ⟨first, rest, rfl, same, behind⟩ := (accepts_one own.1).mp accepted
    exact congrArg₂ List.cons (same.resolve_left own.2) (ih others behind)

/-- A text that matches another read as a pattern: percent signs stand for nothing and underscores for a letter. -/
def filled (text : List Char) : List Char := (text.filter (· != '%')).map fun c => if c == '_' then 'x' else c

private theorem accepts_filled (text : List Char) : accepts text (filled text) = true := by
  induction text with
  | nil => rfl
  | cons c text ih =>
    by_cases run : c = '%'
    · subst run
      exact accepts_run.mpr ⟨[], filled text, rfl, ih⟩
    · have kept : filled (c :: text) = (if c == '_' then 'x' else c) :: filled text := by
        simp [filled, run]
      rw [kept, accepts_one run]
      refine ⟨_, _, rfl, ?_, ih⟩
      by_cases one : c = '_'
      · exact .inl one
      · right
        simp [one]

/-- Where a text has wildcards, what matches it need not have the text in it. -/
theorem filled_inside {text : List Char} (inside : Text.lower text <:+: Text.lower (filled text)) :
    ∀ c ∈ text, isWildcard c = false := by
  have long : text.length ≤ (text.filter (· != '%')).length := by
    simpa [Text.lower, filled] using inside.length_le
  have whole : text.filter (· != '%') = text := List.filter_sublist.eq_of_length_le long
  have alike : Text.lower text = Text.lower (filled text) := by
    apply inside.eq_of_length
    simp [Text.lower, filled, whole]
  intro c member
  rw [Text.lower, Text.lower, filled, whole, List.map_map, List.map_inj_left] at alike
  have unrun : c ≠ '%' := by simpa using List.filter_eq_self.mp whole c member
  have unfilled : c ≠ '_' := by
    rintro rfl
    exact absurd (alike '_' member) (by decide)
  simp [isWildcard, unrun, unfilled]

end Pattern

/-- The condition is sent as a comparison of the column with a bound pattern, and the text matches that pattern. -/
def Condition.Selects (condition : Condition) (column content : String) : Prop :=
  ∃ pattern, WhereClause.ofCondition (some condition) = .ok ⟨some (quoteName column ++ " LIKE ?"), [.text pattern]⟩ ∧
    Pattern.accepts pattern.toList content.toList = true

theorem Condition.like_selects {column pattern content : String} :
    (like column pattern).Selects column content ↔ Pattern.accepts pattern.toList content.toList = true := by
  have compiled : WhereClause.ofCondition (some (like column pattern)) =
      .ok ⟨some (quoteName column ++ " LIKE ?"), [.text pattern]⟩ := by
    refine WhereClause.ofCondition_ok.mpr ⟨_, rfl, ?_⟩
    have text : Fragment.text [.name column, .keyword .like, .slot (.text pattern)] = quoteName column ++ " LIKE ?" := by
      simp [Fragment.text, Piece.text, Keyword.text]
    rw [WhereClause.ofFragment, text]
    rfl
  constructor
  · rintro ⟨bound, own, accepted⟩
    cases compiled.symm.trans own
    exact accepted
  · intro accepted
    exact ⟨pattern, compiled, accepted⟩

inductive Place where
  | front
  | back
  | anywhere

namespace Place

def condition : Place → String → String → Condition
  | .front => Condition.startsWith
  | .back => Condition.endsWith
  | .anywhere => Condition.contains

def Holds : Place → List Char → List Char → Prop
  | .front, part, whole => part <+: whole
  | .back, part, whole => part <:+ whole
  | .anywhere, part, whole => part <:+: whole

instance (place : Place) (part whole : List Char) : Decidable (place.Holds part whole) :=
  match place with
  | .front => inferInstanceAs (Decidable (part <+: whole))
  | .back => inferInstanceAs (Decidable (part <:+ whole))
  | .anywhere => inferInstanceAs (Decidable (part <:+: whole))

theorem Holds.inside {place : Place} {part whole : List Char} (holds : place.Holds part whole) : part <:+: whole := by
  cases place with
  | front => exact List.IsPrefix.isInfix holds
  | back => exact List.IsSuffix.isInfix holds
  | anywhere => exact holds

private theorem holds_self (place : Place) (text : List Char) : place.Holds text text := by
  cases place with
  | front => exact List.prefix_rfl
  | back => exact List.suffix_rfl
  | anywhere => exact List.infix_rfl

theorem holds_lower {place : Place} {text content : List Char} : place.Holds (Text.lower text) (Text.lower content) ↔
    ∃ part, place.Holds part content ∧ Text.lower text = Text.lower part := by
  cases place with
  | front => exact List.prefix_map_iff
  | back => exact List.suffix_map_iff
  | anywhere => exact List.infix_map_iff

/-- The text is a pattern of its own for a piece in its place. -/
theorem condition_selects {place : Place} {column text content : String} :
    (place.condition column text).Selects column content ↔
      ∃ part, place.Holds part content.toList ∧ Pattern.accepts text.toList part = true := by
  cases place with
  | front =>
    rw [condition, Condition.startsWith, Condition.like_selects, String.toList_append, Pattern.accepts_append]
    constructor
    · rintro ⟨part, behind, whole, own, -⟩
      exact ⟨part, ⟨behind, whole.symm⟩, own⟩
    · rintro ⟨part, ⟨behind, whole⟩, own⟩
      exact ⟨part, behind, whole.symm, own, Pattern.accepts_anything behind⟩
  | back =>
    rw [condition, Condition.endsWith, Condition.like_selects, String.toList_append, Pattern.accepts_append]
    constructor
    · rintro ⟨before, part, whole, -, own⟩
      exact ⟨part, ⟨before, whole.symm⟩, own⟩
    · rintro ⟨part, ⟨before, whole⟩, own⟩
      exact ⟨before, part, whole.symm, Pattern.accepts_anything before, own⟩
  | anywhere =>
    rw [condition, Condition.contains, Condition.like_selects, String.toList_append, String.toList_append,
      Pattern.accepts_append]
    constructor
    · rintro ⟨front, behind, whole, first, -⟩
      obtain ⟨before, part, rfl, -, own⟩ := Pattern.accepts_append.mp first
      exact ⟨part, ⟨before, behind, whole.symm⟩, own⟩
    · rintro ⟨part, ⟨before, behind, whole⟩, own⟩
      exact ⟨before ++ part, behind, whole.symm,
        Pattern.accepts_append.mpr ⟨before, part, rfl, Pattern.accepts_anything before, own⟩,
        Pattern.accepts_anything behind⟩

/-- The three conditions match what has the text in its place read as a pattern, so they miss no text that has it there as
it stands, in either case of its letters. They match no other text exactly if there is no wildcard in it. -/
theorem selects_exactly (place : Place) (column text : String) :
    (∀ content, (place.condition column text).Selects column content ↔
      ∃ part, place.Holds part content.toList ∧ Pattern.accepts text.toList part = true) ∧
    (∀ content, place.Holds (Text.lower text.toList) (Text.lower content.toList) →
      (place.condition column text).Selects column content) ∧
    ((∀ content, (place.condition column text).Selects column content ↔
        place.Holds (Text.lower text.toList) (Text.lower content.toList)) ↔
      ∀ c ∈ text.toList, Pattern.isWildcard c = false) := by
  refine ⟨fun _ => condition_selects, ?_, ?_, ?_⟩
  · intro content holds
    obtain ⟨part, inside, alike⟩ := holds_lower.mp holds
    exact condition_selects.mpr ⟨part, inside, Pattern.accepts_alike alike⟩
  · intro exactly
    have selected : (place.condition column text).Selects column (String.ofList (Pattern.filled text.toList)) := by
      rw [condition_selects, String.toList_ofList]
      exact ⟨_, place.holds_self _, Pattern.accepts_filled _⟩
    have holds := (exactly _).mp selected
    rw [String.toList_ofList] at holds
    exact Pattern.filled_inside holds.inside
  · intro plain content
    simp only [condition_selects, holds_lower, Pattern.accepts_plain plain]

theorem selects_exactly_letters :
    Place.front.Holds (Text.lower "sa".toList) (Text.lower "Salih".toList) ∧
    (Place.front.condition "name" "sa").Selects "name" "Salih" ∧
    ¬ (Place.front.condition "name" "sa").Selects "name" "Isa" := by
  obtain ⟨-, found, exactly⟩ := selects_exactly .front "name" "sa"
  have holds : Place.front.Holds (Text.lower "sa".toList) (Text.lower "Salih".toList) := by
    decide
  have plain : ∀ c ∈ "sa".toList, Pattern.isWildcard c = false := by simp [Pattern.isWildcard]
  refine ⟨holds, found "Salih" holds, ?_⟩
  rw [exactly.mpr plain]
  decide

/-- Fifty percent is looked for, and five hundred is found. -/
theorem percent_selects_more :
    (Condition.startsWith "discount" "50%").Selects "discount" "500" ∧
    ¬ Text.lower "50%".toList <+: Text.lower "500".toList :=
  ⟨Condition.like_selects.mpr (by decide), by decide⟩

end Place

end Relmap
