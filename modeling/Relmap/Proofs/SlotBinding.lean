import Relmap.Proofs.SessionCalls

/-! Slots and what is bound to them. The question marks of a text, the number of slots that a driver is told
of and the bindings that are made for it agree, whatever names the text contains. -/

namespace Relmap

/-- The question marks outside quoted names. A doubled quote leaves a name and enters it again. -/
def openMarks (quoted : Bool) : List Char → Nat
  | [] => 0
  | c :: text =>
    if c = '"' then openMarks (!quoted) text
    else if c = '?' ∧ quoted = false then openMarks quoted text + 1
    else openMarks quoted text

private theorem openMarks_plain {plain : List Char} (rest : List Char) (each : ∀ c ∈ plain, c ≠ '"' ∧ c ≠ '?') :
    openMarks false (plain ++ rest) = openMarks false rest := by
  induction plain with
  | nil => rfl
  | cons c plain ih =>
    obtain ⟨⟨noQuote, noMark⟩, each⟩ := List.forall_mem_cons.mp each
    simp [openMarks, noQuote, noMark, ih each]

private theorem openMarks_content (content rest : List Char) :
    openMarks true (content.flatMap (fun c => if c == '"' then ['"', '"'] else [c]) ++ '"' :: rest) =
      openMarks false rest := by
  induction content with
  | nil => rfl
  | cons c content ih =>
    rw [List.flatMap_cons]
    by_cases quote : c = '"'
    · simpa [quote, openMarks] using ih
    · simpa [quote, openMarks] using ih

private theorem openMarks_name (identifier : String) (rest : List Char) :
    openMarks false ((quoteName identifier).toList ++ rest) = openMarks false rest := by
  have text : (quoteName identifier).toList ++ rest =
      '"' :: (identifier.toList.flatMap (fun c => if c == '"' then ['"', '"'] else [c]) ++ '"' :: rest) := by
    simp [quoteName]
  rw [text]
  exact openMarks_content identifier.toList rest

private theorem keyword_plain (word : Keyword) : ∀ c ∈ word.text.toList, c ≠ '"' ∧ c ≠ '?' := by
  cases word <;> simp [Keyword.text]

/-- Only slots show as question marks. -/
theorem openMarks_text (fragment : Fragment) : openMarks false fragment.text.toList = fragment.arguments.length := by
  induction fragment with
  | nil => rfl
  | cons piece rest ih =>
    rw [Fragment.text_cons]
    cases piece with
    | keyword word => rw [Piece.text, openMarks_plain _ (keyword_plain word), ih, Fragment.arguments_keyword]
    | name identifier => rw [Piece.text, openMarks_name, ih, Fragment.arguments_name]
    | slot value => simp [Piece.text, openMarks, ih]

example : openMarks false "\"a\"\"?\" = ?".toList = 1 := by decide

private theorem bindings_indices (arguments : List Value) :
    (bindings arguments).map (·.1) = List.range arguments.length := by
  rw [bindings, List.map_map, List.range_eq_range', ← List.zipIdx_map_snd]
  rfl

private theorem bindings_contents (arguments : List Value) :
    (bindings arguments).map (·.2) = arguments.map Value.bound := by
  rw [bindings, List.map_map]
  nth_rewrite 2 [← List.zipIdx_map_fst 0 arguments]
  rw [List.map_map]
  rfl

/-- The call has a slot for each of the values and binds it there, in order and once. -/
structure Call.Carries (call : Call) (values : List Value) : Prop where
  marks : openMarks false call.sql.toList = call.parameters
  count : call.bindings.length = call.parameters
  indices : call.bindings.map (·.1) = List.range call.parameters
  contents : call.bindings.map (·.2) = values.map Value.bound

theorem Inquiry.carries {inquiry : Inquiry} {call : Call} (asks : inquiry.Asks call) : call.Carries inquiry.values := by
  obtain ⟨statement, compiled, rfl⟩ := asks
  obtain ⟨fragment, own, rfl⟩ := statement_ok.mp compiled
  have arguments := (fragment_order own).1
  constructor
  · exact openMarks_text fragment
  · simp [Statement.call, Fragment.statement, bindings]
  · exact bindings_indices fragment.arguments
  · rw [← arguments]
    exact bindings_contents fragment.arguments

namespace Operation

/-- Every call that reaches a driver is the statement of an inquiry in the operation's plan, with as many
slots as question marks, and each slot is bound to its own value: those of the condition from left to
right, then the limit, then the offset where rows are skipped. -/
theorem calls_carry {σ α : Type} (operation : Operation α) (driver : Driver σ) (state : σ) :
    ∀ call ∈ operation.calls driver state,
      ∃ inquiry ∈ operation.plan, inquiry.Asks call ∧ call.Carries inquiry.values := by
  intro call made
  obtain ⟨inquiry, planned, asks⟩ := operation.calls_planned driver state call made
  exact ⟨inquiry, planned, asks, Inquiry.carries asks⟩

/-- A name with a quote and a question mark in it leaves the counting as it is. -/
theorem calls_carry_skipping :
    Call.Carries ⟨.query, "SELECT \"id\" FROM \"a?\" WHERE \"b\"\"?\" = ? LIMIT ? OFFSET ?", 3,
        [(0, .long 1), (1, .long 2), (2, .long 5)]⟩ [.bool true, .int 2, .int 5] := by
  have made : ⟨.query, "SELECT \"id\" FROM \"a?\" WHERE \"b\"\"?\" = ? LIMIT ? OFFSET ?", 3,
      [(0, .long 1), (1, .long 2), (2, .long 5)]⟩ ∈ (Operation.selectRows ⟨"a?", "A", [⟨"id", .integer, false, none, 1, true⟩]⟩
        ⟨some (.compare .eq "b\"?" (.bool true)), []⟩ (some ⟨2, 5⟩)).calls Script.driver ⟨[], []⟩ := by decide
  obtain ⟨inquiry, planned, _, carries⟩ := calls_carry _ _ _ _ made
  cases List.mem_singleton.mp planned
  exact carries

end Operation

end Relmap
