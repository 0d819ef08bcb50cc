import Mathlib.Data.List.Forall2
import Relmap.Proofs.StatementTokens

/-! Values as logs show them. A text stands between apostrophes that nothing inside it can close, and the form of any other value
has neither an apostrophe nor a comma, so a list of forms can be taken apart in one way only. -/

namespace Relmap

def isMark (c : Char) : Bool := c == '\'' || c == ','

/-- A form that no apostrophe opens and no comma ends. -/
structure Bare (form : List Char) : Prop where
  nonempty : form ≠ []
  unmarked : form.any isMark = false

theorem Bare.behind {form front : List Char} (bare : Bare form) (unmarked : front.any isMark = false) : Bare (front ++ form) := by
  refine ⟨List.append_ne_nil_of_right_ne_nil front bare.nonempty, ?_⟩
  rw [List.any_append, unmarked, bare.unmarked]
  rfl

theorem Bare.before {form back : List Char} (bare : Bare form) (unmarked : back.any isMark = false) : Bare (form ++ back) := by
  refine ⟨List.append_ne_nil_of_left_ne_nil bare.nonempty back, ?_⟩
  rw [List.any_append, unmarked, bare.unmarked]
  rfl

theorem bare_digits (n : Nat) : Bare (Nat.toDigits 10 n) := by
  refine ⟨Nat.toDigits_ne_nil, List.any_eq_false.mpr fun c member => ?_⟩
  have digit : c.isDigit = true := Nat.isDigit_of_mem_toDigits (by decide) (by decide) member
  intro mark
  rcases Bool.or_eq_true_iff.mp mark with quote | comma
  · rw [eq_of_beq quote] at digit
    contradiction
  · rw [eq_of_beq comma] at digit
    contradiction

theorem bare_number (n : Nat) : Bare (toString n).toList := by
  rw [Nat.toString_eq_ofList_toDigits, String.toList_ofList]
  exact bare_digits n

private theorem bare_integer (n : Int) : Bare (toString n).toList := by
  cases n with
  | ofNat n => exact bare_number n
  | negSucc n =>
    change Bare ("-" ++ toString (n + 1)).toList
    rw [String.toList_append]
    exact (bare_number (n + 1)).behind (by decide)

theorem unmarked_zeros (count : Nat) : (List.replicate count '0').any isMark = false := by
  rw [List.any_replicate]
  split <;> rfl

private theorem Decimal.bare_positional {digits : List Char} (bare : Bare digits) (point : Int) :
    Bare (positional .plain digits point) := by
  unfold positional
  split
  · apply bare.behind
    rw [List.any_append, unmarked_zeros]
    rfl
  · split
    · rw [List.append_assoc]
      apply bare.before
      rw [List.any_append, unmarked_zeros]
      rfl
    · constructor
      case nonempty => simp
      case unmarked =>
        have whole := bare.unmarked
        rw [← List.take_append_drop point.toNat digits, List.any_append] at whole
        rw [List.any_append, List.any_cons]
        exact whole

private theorem Decimal.bare_layOut (x : Decimal) : Bare (x.layOut .plain) := by
  unfold layOut
  simp only [Layout.plain, Bool.false_and, Bool.false_eq_true, if_false]
  split
  · exact ⟨List.cons_ne_nil _ _, rfl⟩
  · exact bare_positional (bare_digits x.digits) _

private theorem Binary64.bare_plain (x : Binary64) : Bare (x.write .plain) := by
  unfold write
  split
  · exact ⟨List.cons_ne_nil _ _, rfl⟩
  · apply Bare.behind
    · split
      · exact ⟨List.cons_ne_nil _ _, rfl⟩
      · exact Decimal.bare_layOut _
    · split <;> rfl

/-- What can stand behind a form: nothing, or the comma before the next one. -/
def Ends (rest : List Char) : Prop := ∀ c ∈ rest.head?, c = ','

theorem ends_nil : Ends [] := fun _ none => nomatch none

theorem Ends.closed {rest : List Char} (ends : Ends rest) : rest.head? ≠ some '\'' :=
  fun quote => absurd (ends _ quote) (by decide)

theorem Bare.delimited {form rest : List Char} (bare : Bare form) (ends : Ends rest) :
    (form ++ rest).takeWhile (! isMark ·) = form := by
  have own : ∀ c ∈ form, (! isMark c) = true := by
    simpa using bare.unmarked
  rw [List.takeWhile_append_of_pos own]
  cases rest with
  | nil => exact List.append_nil form
  | cons c rest =>
    rw [ends c rfl, List.takeWhile_cons_of_neg (by decide), List.append_nil]

namespace Value

theorem render_text (content : String) :
    (text content).render.toList = '\'' :: (Token.doubled '\'' content.toList ++ ['\'']) := by
  rw [render, quoteText, String.toList_ofList]
  rfl

theorem render_cases (value : Value) : (∃ content, value = .text content) ∨ Bare value.render.toList := by
  cases value with
  | null => exact .inr ⟨by decide, by decide⟩
  | bool flag => cases flag <;> exact .inr ⟨by decide, by decide⟩
  | int number => exact .inr (bare_integer number.toInt)
  | float number =>
    rw [render, Binary64.plain, String.toList_ofList]
    exact .inr number.bare_plain
  | text content => exact .inl ⟨content, rfl⟩
  | blob bytes =>
    rw [render, String.toList_append, String.toList_append]
    exact .inr (((bare_number bytes.length).behind (by decide)).before (by decide))

private theorem render_nonempty (value : Value) : value.render.toList ≠ [] := by
  rcases value.render_cases with ⟨content, rfl⟩ | bare
  · rw [render_text]
    exact List.cons_ne_nil _ _
  · exact bare.nonempty

/-- A text is never taken for anything else. -/
theorem text_apart {content : String} {form rest behind : List Char} (bare : Bare form) :
    (text content).render.toList ++ rest ≠ form ++ behind := by
  intro same
  have unmarked := bare.unmarked
  cases form with
  | nil => exact bare.nonempty rfl
  | cons c form =>
    rw [render_text] at same
    rw [← (List.cons.inj same).1] at unmarked
    contradiction

/-- A text ends where its own apostrophe closes it, whatever is logged behind it. -/
theorem text_delimited {first second : String} {rest behind : List Char} (ends : Ends rest) (also : Ends behind)
    (same : (text first).render.toList ++ rest = (text second).render.toList ++ behind) : first = second := by
  rw [render_text, render_text, List.cons_append, List.cons_append, List.append_assoc, List.append_assoc] at same
  have read := congrArg (Text.quotedContent '\'') (List.cons.inj same).2
  rw [List.singleton_append, List.singleton_append, Token.quotedContent_doubled _ _ ends.closed,
    Token.quotedContent_doubled _ _ also.closed] at read
  exact String.toList_inj.mp (Prod.mk.inj (Option.some.inj read)).1

theorem render_delimited {value other : Value} {rest behind : List Char} (ends : Ends rest) (also : Ends behind)
    (same : value.render.toList ++ rest = other.render.toList ++ behind) : value.render = other.render ∧ rest = behind := by
  have forms : value.render = other.render := by
    rcases value.render_cases with ⟨first, rfl⟩ | bare
    · rcases other.render_cases with ⟨second, rfl⟩ | bareOther
      · rw [text_delimited ends also same]
      · exact absurd same (text_apart bareOther)
    · rcases other.render_cases with ⟨second, rfl⟩ | bareOther
      · exact absurd same.symm (text_apart bare)
      · have cut := congrArg (List.takeWhile (! isMark ·)) same
        rw [bare.delimited ends, bareOther.delimited also] at cut
        exact String.toList_inj.mp cut
  rw [forms] at same
  exact ⟨forms, List.append_cancel_left same⟩

theorem render_eq_text {value : Value} {content : String} : value.render = (text content).render ↔ value = .text content := by
  constructor
  · intro same
    have whole : value.render.toList ++ [] = (text content).render.toList ++ [] := by rw [same]
    rcases value.render_cases with ⟨own, rfl⟩ | bare
    · rw [text_delimited ends_nil ends_nil whole]
    · exact absurd whole.symm (text_apart bare)
  · rintro rfl
    rfl

def following (values : List Value) : List Char := values.flatMap fun value => ',' :: ' ' :: value.render.toList

theorem following_ends (values : List Value) : Ends (following values) := by
  cases values with
  | nil => exact ends_nil
  | cons value values => exact fun c first => (Option.some.inj first).symm

private theorem intercalate_following (value : Value) (values : List Value) :
    (", ".intercalate ((value :: values).map render)).toList = value.render.toList ++ following values := by
  induction values generalizing value with
  | nil =>
    rw [List.map_singleton, String.intercalate_singleton]
    exact (List.append_nil _).symm
  | cons next values ih =>
    rw [List.map_cons, List.map_cons, String.intercalate_cons_cons, ← List.map_cons, String.toList_append, ih,
      String.toList_append, List.append_assoc]
    rfl

theorem renderList_cons (value : Value) (values : List Value) :
    (renderList (value :: values)).toList = '[' :: (value.render.toList ++ following values ++ [']']) := by
  rw [renderList, String.toList_append, String.toList_append, intercalate_following]
  rfl

/-- Forms that are logged alike are as many and are the same one by one. -/
theorem following_same {first second : List Value} (same : following first = following second) :
    List.Forall₂ (fun value other => value.render = other.render) first second := by
  induction first generalizing second with
  | nil =>
    cases second with
    | nil => exact .nil
    | cons other second => contradiction
  | cons value first ih =>
    cases second with
    | nil => contradiction
    | cons other second =>
      have behind := (List.cons.inj (List.cons.inj same).2).2
      obtain ⟨forms, others⟩ := render_delimited (following_ends first) (following_ends second) behind
      exact .cons forms (ih others)

private theorem renderList_same {first second : List Value} (same : renderList first = renderList second) :
    List.Forall₂ (fun value other => value.render = other.render) first second := by
  have listed : (renderList first).toList = (renderList second).toList := congrArg String.toList same
  have apart : ∀ (value : Value) (values : List Value), ['[', ']'] ≠ (renderList (value :: values)).toList := by
    intro value values none
    rw [renderList_cons, List.append_assoc, List.cons.injEq] at none
    have length := congrArg List.length none.2
    have shown := List.length_pos_iff.mpr value.render_nonempty
    simp only [List.length_append, List.length_cons, List.length_nil] at length
    omega
  cases first with
  | nil =>
    cases second with
    | nil => exact .nil
    | cons other second => exact absurd listed (apart other second)
  | cons value first =>
    cases second with
    | nil => exact absurd listed.symm (apart value first)
    | cons other second =>
      rw [renderList_cons, renderList_cons, List.cons.injEq] at listed
      obtain ⟨forms, others⟩ := render_delimited (following_ends first) (following_ends second)
        (List.append_cancel_right listed.2)
      exact .cons forms (following_same others)

/-- Values that are logged alike are as many and have the same forms one by one, and where one of them is a text the other one
is the same text: no text shows as another, as a value of another kind, or as several values. -/
theorem renderList_unforged {first second : List Value} (same : renderList first = renderList second) :
    List.Forall₂ (fun value other => value.render = other.render ∧
      ∀ content, value = .text content ↔ other = .text content) first second := by
  refine (renderList_same same).imp fun value other forms => ⟨forms, fun content => ?_⟩
  rw [← render_eq_text, ← render_eq_text, forms]

/-- A text that looks like two, a number that is none and a blob of which only the length shows. -/
def lookalikes (bits : UInt64) (byte : UInt8) : List Value := [.text "a', 'b", .float ⟨bits⟩, .blob [byte]]

theorem renderList_unforged_lookalikes :
    renderList (lookalikes 0x7FF8000000000000 1) = renderList (lookalikes 0xFFF8000000000001 2) ∧
    List.Forall₂ (fun value other => value.render = other.render ∧ ∀ content, value = .text content ↔ other = .text content)
      (lookalikes 0x7FF8000000000000 1) (lookalikes 0xFFF8000000000001 2) := by
  have same : renderList (lookalikes 0x7FF8000000000000 1) = renderList (lookalikes 0xFFF8000000000001 2) := by decide
  exact ⟨same, renderList_unforged same⟩

end Value

end Relmap
