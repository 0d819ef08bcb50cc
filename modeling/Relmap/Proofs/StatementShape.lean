import Relmap.Proofs.Inquiries

/-! What the text of a statement shows of the data that it was made from: the names, at places that the
shape of the inquiry determines, and nothing of the values. -/

namespace Relmap

/-- The token without the content of a name. -/
def Token.nameless {α : Type} : Token α → Token α
  | .name _ => .name ""
  | token => token

namespace Piece

def blanked : Piece → Piece
  | .keyword word => .keyword word
  | .name _ => .name ""
  | .slot _ => .slot .null

private theorem tokens_blanked (piece : Piece) :
    piece.blanked.tokens.map Token.emptied = (piece.tokens.map Token.emptied).map Token.nameless := by
  cases piece with
  | keyword word => cases word <;> rfl
  | name identifier => rfl
  | slot value => rfl

end Piece

namespace Fragment

def blanked (fragment : Fragment) : Fragment := fragment.map Piece.blanked

@[simp] theorem blanked_nil : blanked [] = [] := rfl

@[simp] theorem blanked_cons (piece : Piece) (rest : Fragment) :
    blanked (piece :: rest) = piece.blanked :: blanked rest := rfl

theorem blanked_append (first second : Fragment) : blanked (first ++ second) = blanked first ++ blanked second :=
  List.map_append

theorem blanked_bracketed (part : Fragment) : blanked part.bracketed = (blanked part).bracketed := by
  simp [blanked, bracketed, Piece.blanked]

theorem blanked_separated (separator : Keyword) (parts : List Fragment) :
    blanked (separated separator parts) = separated separator (parts.map blanked) := by
  fun_induction separated separator parts with
  | case1 => rfl
  | case2 only => rfl
  | case3 first rest several ih =>
    cases rest with
    | nil => contradiction
    | cons second rest =>
      rw [blanked_append]
      exact congrArg (fun others => blanked first ++ .keyword separator :: others) ih

theorem tokens_blanked (fragment : Fragment) :
    fragment.blanked.tokens.map Token.emptied = (fragment.tokens.map Token.emptied).map Token.nameless := by
  induction fragment with
  | nil => rfl
  | cons piece rest ih =>
    simp only [tokens, blanked] at ih ⊢
    rw [List.map_cons, List.flatMap_cons, List.flatMap_cons, List.map_append, ih, piece.tokens_blanked]
    simp

/-- Values leave no trace in a text. -/
theorem text_alike {first second : Fragment} (alike : first.blanked = second.blanked) (same : first.names = second.names) :
    first.text = second.text := by
  induction first generalizing second with
  | nil =>
    cases List.map_eq_nil_iff.mp alike.symm
    rfl
  | cons piece rest ih =>
    cases second with
    | nil => contradiction
    | cons piece' rest' =>
      obtain ⟨own, others⟩ := List.cons.inj alike
      have shown : piece.text = piece'.text ∧ names rest = names rest' := by
        cases piece <;> cases piece' <;> simp [Piece.blanked] at own
        case keyword.keyword => exact ⟨congrArg Keyword.text own, same⟩
        case name.name =>
          obtain ⟨rfl, behind⟩ := List.cons.inj same
          exact ⟨rfl, behind⟩
        case slot.slot => exact ⟨rfl, same⟩
      simpa [text, shown.1] using ih others shown.2

end Fragment

namespace Condition

mutual

def blanked : Condition → Condition
  | .compare operator _ _ => .compare operator "" .null
  | .like _ _ => .like "" ""
  | .inList _ values => .inList "" (values.map fun _ => .null)
  | .between _ _ _ => .between "" .null .null
  | .isNull _ => .isNull ""
  | .isNotNull _ => .isNotNull ""
  | .all operands => .all (blankedEach operands)
  | .any operands => .any (blankedEach operands)
  | .not operand => .not operand.blanked
  | .group operand => .group operand.blanked

def blankedEach : List Condition → List Condition
  | [] => []
  | operand :: rest => operand.blanked :: blankedEach rest

end

theorem blanked_node (combinator : Combinator) (operands : List Condition) :
    (combinator.node operands).blanked = combinator.node (operands.map blanked) := by
  have each : blankedEach operands = operands.map blanked := by
    induction operands with
    | nil => rfl
    | cons operand operands ih => rw [blankedEach, List.map_cons, ih]
  rw [← each]
  cases combinator <;> rfl

theorem complete_blanked (condition : Condition) : condition.blanked.complete = condition.complete := by
  induction condition using Condition.induction with
  | leaf condition isLeaf =>
    cases condition with
    | inList column values => cases values <;> rfl
    | all operands | any operands | not operand | group operand => contradiction
    | _ => rfl
  | node combinator operands ih =>
    have each : operands.all (complete ∘ blanked) = operands.all complete := by
      rw [Bool.eq_iff_iff, List.all_eq_true, List.all_eq_true]
      exact forall₂_congr fun operand member => by rw [Function.comp, ih operand member]
    rw [blanked_node, complete_node, complete_node, List.isEmpty_map, List.all_map, each]
  | not operand ih | group operand ih => exact ih

private theorem blanked_slots (values : List Value) :
    (slots values).blanked = slots (values.map fun _ => .null) := by
  rw [slots, slots, Fragment.blanked_bracketed, Fragment.blanked_separated, List.map_map, List.map_map]
  rfl

private theorem forall₂_between {α β γ : Type} {before : α → γ → Prop} {after : γ → β → Prop} {first : List α}
    {second : List β} (each : List.Forall₂ (fun a b => ∃ c, before a c ∧ after c b) first second) :
    ∃ middle, List.Forall₂ before first middle ∧ List.Forall₂ after middle second := by
  induction each with
  | nil => exact ⟨[], .nil, .nil⟩
  | cons own _ ih =>
    obtain ⟨c, left, right⟩ := own
    obtain ⟨middle, lefts, rights⟩ := ih
    exact ⟨c :: middle, .cons left lefts, .cons right rights⟩

theorem fragment_blanked {condition : Condition} {part : Fragment} (compiled : condition.fragment = .ok part) :
    ∃ blank, condition.blanked.fragment = .ok blank ∧ blank.blanked = part.blanked := by
  refine compiled_induction
    (motive := fun condition part => ∃ blank, condition.blanked.fragment = .ok blank ∧ blank.blanked = Fragment.blanked part)
    ?compare ?like ?inList ?between ?isNull ?isNotNull ?node ?not ?group compiled
  case inList =>
    intro column values nonempty
    refine ⟨.name "" :: .keyword .inList :: slots (values.map fun _ => .null), ?_, ?_⟩
    · cases values with
      | nil => contradiction
      | cons value values => rfl
    · simp [blanked_slots, Piece.blanked]
  case node =>
    intro combinator operands parts nonempty each
    obtain ⟨blanks, own, alike⟩ := forall₂_between each
    have same : blanks.map Fragment.blanked = parts.map Fragment.blanked := map_eq_of_forall₂ alike
    rw [blanked_node]
    refine ⟨_, node_ok.mpr ⟨by simpa using nonempty, blanks, List.forall₂_map_left_iff.mpr own, rfl⟩, ?_⟩
    have bracketed : ∀ parts : List Fragment, (parts.map Fragment.bracketed).map Fragment.blanked =
        (parts.map Fragment.blanked).map Fragment.bracketed := by
      simp [Fragment.blanked_bracketed]
    rw [Fragment.blanked_separated, Fragment.blanked_separated, bracketed, bracketed, same]
  case not =>
    intro operand part ⟨blank, own, alike⟩
    refine ⟨.keyword .not :: blank.bracketed, bind_eq_ok.mpr ⟨blank, own, rfl⟩, ?_⟩
    rw [Fragment.blanked_cons, Fragment.blanked_cons, Fragment.blanked_bracketed, Fragment.blanked_bracketed, alike]
  case group =>
    intro operand part ⟨blank, own, alike⟩
    refine ⟨blank.bracketed, bind_eq_ok.mpr ⟨blank, own, rfl⟩, ?_⟩
    rw [Fragment.blanked_bracketed, Fragment.blanked_bracketed, alike]
  all_goals
    intros
    exact ⟨_, rfl, rfl⟩

/-- Conditions of one shape compile to pieces of the same kinds. -/
theorem fragment_alike {condition other : Condition} {part : Fragment} (alike : condition.blanked = other.blanked)
    (compiled : condition.fragment = .ok part) : ∃ otherPart, other.fragment = .ok otherPart ∧ part.blanked = otherPart.blanked := by
  have complete : other.complete = true := by
    rw [← complete_blanked, ← alike, complete_blanked]
    exact complete_iff.mpr ⟨part, compiled⟩
  obtain ⟨otherPart, otherCompiled⟩ := complete_iff.mp complete
  obtain ⟨blank, own, same⟩ := fragment_blanked compiled
  obtain ⟨otherBlank, otherOwn, otherSame⟩ := fragment_blanked otherCompiled
  rw [alike, otherOwn] at own
  cases own
  exact ⟨otherPart, otherCompiled, same.symm.trans otherSame⟩

end Condition

def Window.skips (window : Window) : Bool := window.offset > 0

namespace Inquiry

/-- Two inquiries that may differ in names and values only: they want as many columns, combine predicates
of the same kinds on as many values in the same way, order by as many columns in the same directions, and
agree in whether there is a limit and whether rows are skipped. -/
inductive Alike : Inquiry → Inquiry → Prop where
  | rows {table other : Table} {selection otherSelection : Selection} {window otherWindow : Option Window}
    (wanted : table.columns.length = other.columns.length)
    (combined : selection.condition.map Condition.blanked = otherSelection.condition.map Condition.blanked)
    (directed : selection.order.map (·.ascending) = otherSelection.order.map (·.ascending))
    (bounded : window.map Window.skips = otherWindow.map Window.skips) :
    Alike (.rows table selection window) (.rows other otherSelection otherWindow)
  | number {table other : Table} {condition otherCondition : Option Condition}
    (combined : condition.map Condition.blanked = otherCondition.map Condition.blanked) :
    Alike (.number table condition) (.number other otherCondition)

private theorem projection_blanked (table : Table) : table.projection.blanked =
    .keyword .select :: Fragment.separated .comma (List.replicate table.columns.length [.name ""]) := by
  rw [Table.projection, Fragment.blanked_cons, Fragment.blanked_separated, List.map_map]
  simp [Table.columnNames, Function.comp_def, Piece.blanked, List.map_const']

private theorem ordering_blanked (order : List Order) : (Table.ordering order).blanked =
    Table.ordering ((order.map (·.ascending)).map fun ascending => ⟨"", ascending⟩) := by
  have each : (order.map Order.fragment).map Fragment.blanked =
      ((order.map (·.ascending)).map fun ascending => ⟨"", ascending⟩).map Order.fragment := by
    simp [Function.comp_def, Order.fragment, Piece.blanked]
  unfold Table.ordering
  cases order with
  | nil => rfl
  | cons first rest =>
    change .keyword .orderBy :: Fragment.blanked (Fragment.separated .listComma ((first :: rest).map Order.fragment)) = _
    rw [Fragment.blanked_separated, each]
    rfl

private theorem window_blanked (window : Window) : window.fragment.blanked =
    [.keyword .limit, .slot .null] ++ if window.skips then [.keyword .offset, .slot .null] else [] := by
  unfold Window.fragment Window.skips
  by_cases skips : window.offset > 0
  · simp [skips, Piece.blanked]
  · simp [skips, Piece.blanked]

private theorem head_alike {first second : Inquiry} (alike : first.Alike second) :
    first.head.blanked = second.head.blanked := by
  cases alike with
  | rows wanted => simp [head, Fragment.blanked_append, projection_blanked, wanted, Piece.blanked]
  | number => rfl

private theorem tail_alike {first second : Inquiry} (alike : first.Alike second) :
    first.tail.blanked = second.tail.blanked := by
  cases alike with
  | @rows _ _ _ _ window otherWindow _ _ directed bounded =>
    have same : Fragment.blanked ((window.map Window.fragment).getD []) =
        Fragment.blanked ((otherWindow.map Window.fragment).getD []) := by
      cases window <;> cases otherWindow <;> simp at bounded
      · rfl
      · simp [window_blanked, bounded]
    rw [tail, tail, Fragment.blanked_append, Fragment.blanked_append, ordering_blanked, ordering_blanked, directed, same]
  | number => rfl

private theorem filter_alike {first second : Inquiry} (alike : first.Alike second) {filter : Fragment}
    (compiled : Table.condition first.condition = .ok filter) :
    ∃ other, Table.condition second.condition = .ok other ∧ filter.blanked = other.blanked := by
  have combined : first.condition.map Condition.blanked = second.condition.map Condition.blanked := by
    cases alike with
    | rows _ combined => exact combined
    | number combined => exact combined
  rcases Table.condition_ok.mp compiled with ⟨absent, rfl⟩ | ⟨given, part, present, own, rfl⟩
  · rw [absent, Option.map_none, eq_comm, Option.map_eq_none_iff] at combined
    exact ⟨[], Table.condition_ok.mpr (.inl ⟨combined, rfl⟩), rfl⟩
  · rw [present, Option.map_some, eq_comm, Option.map_eq_some_iff] at combined
    obtain ⟨other, otherPresent, same⟩ := combined
    obtain ⟨otherPart, otherOwn, otherSame⟩ := Condition.fragment_alike same.symm own
    refine ⟨_, Table.condition_ok.mpr (.inr ⟨other, otherPart, otherPresent, otherOwn, rfl⟩), ?_⟩
    exact congrArg (Piece.keyword .whereRows :: ·) otherSame

theorem fragment_alike {first second : Inquiry} (alike : first.Alike second) {fragment : Fragment}
    (compiled : first.fragment = .ok fragment) : ∃ other, second.fragment = .ok other ∧ fragment.blanked = other.blanked := by
  obtain ⟨filter, own, rfl⟩ := fragment_ok.mp compiled
  obtain ⟨other, otherOwn, same⟩ := filter_alike alike own
  refine ⟨_, fragment_ok.mpr ⟨other, otherOwn, rfl⟩, ?_⟩
  simp only [Fragment.blanked_append, same, head_alike alike, tail_alike alike]

private theorem names_emptied (fragment : Fragment) :
    (fragment.tokens.map Token.emptied).filterMap Token.name? = fragment.names := by
  rw [← Fragment.names_tokens, List.filterMap_map]
  congr 1
  funext token
  cases token <;> rfl

/-- If one of two inquiries of the same shape becomes a statement, so does the other. With the same names the
texts are equal, whatever the values are. Whatever the names are, the texts are read as the same tokens up
to the names in them, and these are the names of each inquiry in their order. -/
theorem shape_fixes_text {first second : Inquiry} (alike : first.Alike second) {statement : Statement}
    (compiled : first.statement = .ok statement) :
    ∃ other, second.statement = .ok other ∧ (first.names = second.names → statement.sql = other.sql) ∧
      ∃ tokens otherTokens, Token.ofText statement.sql.toList = some tokens ∧
        Token.ofText other.sql.toList = some otherTokens ∧
        tokens.map Token.nameless = otherTokens.map Token.nameless ∧
        tokens.filterMap Token.name? = first.names ∧ otherTokens.filterMap Token.name? = second.names := by
  obtain ⟨fragment, own, rfl⟩ := statement_ok.mp compiled
  obtain ⟨other, otherOwn, same⟩ := fragment_alike alike own
  have names := (fragment_order own).2
  have otherNames := (fragment_order otherOwn).2
  refine ⟨other.statement, statement_ok.mpr ⟨other, otherOwn, rfl⟩, ?_, _, _,
    Fragment.ofText_spaced (spaced_fragment own), Fragment.ofText_spaced (spaced_fragment otherOwn), ?_, ?_, ?_⟩
  · intro sameNames
    exact Fragment.text_alike same (names.trans (sameNames.trans otherNames.symm))
  · rw [← Fragment.tokens_blanked, ← Fragment.tokens_blanked, same]
  · exact (names_emptied fragment).trans names
  · exact (names_emptied other).trans otherNames

/-- Names that look like the end of a statement and a comment are still names. -/
theorem shape_fixes_text_hostile :
    ∃ tokens otherTokens,
      Token.ofText "SELECT \"id\" FROM \"user\" WHERE \"name\" = ? ORDER BY \"id\" ASC LIMIT ?".toList = some tokens ∧
      Token.ofText "SELECT \"*\" FROM \"user\"\" --\" WHERE \"a?\" = ? ORDER BY \"\"\"; DROP\" ASC LIMIT ?".toList =
        some otherTokens ∧
      tokens.map Token.nameless = otherTokens.map Token.nameless ∧
      otherTokens.filterMap Token.name? = ["*", "user\" --", "a?", "\"; DROP"] := by
  have alike : Alike
      (.rows ⟨"user", "User", [⟨"id", .integer, false, none, 1, true⟩]⟩ ⟨some (.compare .eq "name" (.text "x")), [⟨"id", true⟩]⟩
        (some ⟨10, 0⟩))
      (.rows ⟨"user\" --", "Other", [⟨"*", .text, true, none, 0, false⟩]⟩
        ⟨some (.compare .eq "a?" .null), [⟨"\"; DROP", true⟩]⟩ (some ⟨1, 0⟩)) := .rows rfl rfl rfl rfl
  have compiled : (Inquiry.rows ⟨"user", "User", [⟨"id", .integer, false, none, 1, true⟩]⟩
      ⟨some (.compare .eq "name" (.text "x")), [⟨"id", true⟩]⟩ (some ⟨10, 0⟩)).statement =
        .ok ⟨"SELECT \"id\" FROM \"user\" WHERE \"name\" = ? ORDER BY \"id\" ASC LIMIT ?", [.text "x", .int 10]⟩ := by decide
  have otherCompiled : (Inquiry.rows ⟨"user\" --", "Other", [⟨"*", .text, true, none, 0, false⟩]⟩
      ⟨some (.compare .eq "a?" .null), [⟨"\"; DROP", true⟩]⟩ (some ⟨1, 0⟩)).statement =
        .ok ⟨"SELECT \"*\" FROM \"user\"\" --\" WHERE \"a?\" = ? ORDER BY \"\"\"; DROP\" ASC LIMIT ?", [.null, .int 1]⟩ := by
    decide
  obtain ⟨other, same, _, tokens, otherTokens, read, otherRead, kinds, _, names⟩ := shape_fixes_text alike compiled
  rw [otherCompiled] at same
  cases same
  exact ⟨tokens, otherTokens, read, otherRead, kinds, names⟩

end Inquiry

end Relmap
