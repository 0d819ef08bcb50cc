import Relmap.Proofs.CompiledConditions
import Relmap.Query

/-! What a request asks for, before it is a text: rows of a table or their number. Both kinds of request
are put together in the same way, with a condition between what is wanted and how it is arranged. -/

namespace Relmap

inductive Inquiry where
  | rows (table : Table) (selection : Selection) (window : Option Window)
  | number (table : Table) (condition : Option Condition)

/-- A number past the largest signed word is handed over as that word. -/
def handedOver (n : UInt64) : Value := .int (Int64.ofNat (min n.toNat 0x7FFFFFFFFFFFFFFF))

theorem handedOver_signed (n : UInt64) : handedOver n = .int (saturatingSigned n) := by
  unfold handedOver saturatingSigned
  by_cases fits : n.toNat < 0x8000000000000000
  · have same : min n.toNat 0x7FFFFFFFFFFFFFFF = n.toNat := by omega
    rw [if_pos fits, same]
    rfl
  · have same : min n.toNat 0x7FFFFFFFFFFFFFFF = 0x7FFFFFFFFFFFFFFF := by omega
    rw [if_neg fits, same]
    rfl

def Window.values (window : Window) : List Value :=
  handedOver window.limit :: if window.offset > 0 then [handedOver window.offset] else []

namespace Inquiry

def statement : Inquiry → Except ConditionError Statement
  | .rows table selection window => table.select selection.condition selection.order window
  | .number table condition => return (← WhereClause.ofCondition condition).count table.name

def condition : Inquiry → Option Condition
  | .rows _ selection _ => selection.condition
  | .number _ condition => condition

def values : Inquiry → List Value
  | .rows _ selection window =>
    (selection.condition.map Condition.values).getD [] ++ (window.map Window.values).getD []
  | .number _ condition => (condition.map Condition.values).getD []

/-- The names of the columns that are selected, of the table, of the columns in the condition from left to
right, and of the columns that order the rows. -/
def names : Inquiry → List String
  | .rows table selection _ =>
    table.columnNames ++ [table.name] ++ (selection.condition.map Condition.columns).getD [] ++
      selection.order.map (·.column)
  | .number table condition => [table.name] ++ (condition.map Condition.columns).getD []

def head : Inquiry → Fragment
  | .rows table _ _ => table.projection ++ [.keyword .fromTable, .name table.name]
  | .number table _ => [.keyword .selectCount, .keyword .fromTable, .name table.name]

def tail : Inquiry → Fragment
  | .rows _ selection window => Table.ordering selection.order ++ (window.map Window.fragment).getD []
  | .number _ _ => []

def fragment (inquiry : Inquiry) : Except ConditionError Fragment :=
  return inquiry.head ++ (← Table.condition inquiry.condition) ++ inquiry.tail

end Inquiry

namespace Condition

private theorem visible_cons {piece : Piece} (visible : Text.allBlank piece.text = false) (rest : Fragment) :
    Text.allBlank (Fragment.text (piece :: rest)) = false := by
  rw [Text.allBlank] at visible ⊢
  rw [Fragment.text_cons, List.all_append, visible]
  rfl

private theorem visible_name (column : String) : Text.allBlank (Piece.name column).text = false := by
  simp [Text.allBlank, Piece.text, quoteName, Text.isBlank, Text.inRanges, Text.blankRanges]

/-- A count leaves out a blank condition, but none that was compiled is blank. -/
theorem visible_compiled {condition : Condition} {part : Fragment} (compiled : condition.fragment = .ok part) :
    Text.allBlank part.text = false := by
  refine compiled_induction (motive := fun _ part => Text.allBlank (Fragment.text part) = false)
    ?compare ?like ?inList ?between ?isNull ?isNotNull ?node ?not ?group compiled
  case node =>
    intro combinator operands parts nonempty each
    cases each with
    | nil => contradiction
    | @cons _ part _ parts _ _ =>
      cases parts <;> exact visible_cons rfl _
  case not | group =>
    intros
    exact visible_cons rfl _
  all_goals
    intros
    exact visible_cons (visible_name _) _

end Condition

theorem Table.condition_ok {condition : Option Condition} {filter : Fragment} :
    Table.condition condition = .ok filter ↔ (condition = none ∧ filter = []) ∨
      ∃ given part, condition = some given ∧ given.fragment = .ok part ∧ filter = .keyword .whereRows :: part := by
  cases condition with
  | none => simp [Table.condition, eq_comm]
  | some given =>
    simp only [Table.condition, bind_eq_ok, pure, Except.pure, Except.ok.injEq]
    simp [eq_comm]

private theorem count_compiled {condition : Condition} {part : Fragment} (compiled : condition.fragment = .ok part)
    (table : String) : (WhereClause.ofFragment part).count table =
      Fragment.statement ([.keyword .selectCount, .keyword .fromTable, .name table] ++ .keyword .whereRows :: part) := by
  have text : Fragment.text ([.keyword .selectCount, .keyword .fromTable, .name table] ++ .keyword .whereRows :: part) =
      Fragment.text [.keyword .selectCount, .keyword .fromTable, .name table] ++ Keyword.whereRows.text ++ part.text := by
    simp [Fragment.text, Piece.text, String.append_assoc]
  rw [Fragment.statement, text]
  simp [WhereClause.ofFragment, WhereClause.count, Condition.visible_compiled compiled, Fragment.arguments,
    List.filterMap_cons, Piece.argument?]

theorem Table.condition_clause {condition : Option Condition} {clause : WhereClause}
    (compiled : WhereClause.ofCondition condition = .ok clause) : ∃ filter, Table.condition condition = .ok filter := by
  cases condition with
  | none => exact ⟨[], rfl⟩
  | some given =>
    obtain ⟨part, own, _⟩ := bind_eq_ok.mp compiled
    exact ⟨_, condition_ok.mpr (.inr ⟨given, part, rfl, own, rfl⟩)⟩

namespace Inquiry

theorem fragment_ok {inquiry : Inquiry} {fragment : Fragment} :
    inquiry.fragment = .ok fragment ↔ ∃ filter, Table.condition inquiry.condition = .ok filter ∧
      fragment = inquiry.head ++ filter ++ inquiry.tail := by
  simp only [Inquiry.fragment, bind_eq_ok, pure, Except.pure, Except.ok.injEq]
  simp only [eq_comm]

/-- Every statement is the text of pieces, and its arguments are those of the pieces. -/
theorem statement_fragment (inquiry : Inquiry) : inquiry.statement = inquiry.fragment.map Fragment.statement := by
  cases inquiry with
  | rows table selection window =>
    simp only [statement, fragment, Table.select, Table.selection, condition, head, tail]
    cases Table.condition selection.condition with
    | error error => rfl
    | ok filter => simp [bind, Except.bind, pure, Except.pure, Except.map]
  | number table criteria =>
    simp only [statement, fragment, condition, head, tail]
    cases criteria with
    | none => rfl
    | some given =>
      simp only [WhereClause.ofCondition, Table.condition]
      cases compiled : given.fragment with
      | error error => rfl
      | ok part =>
        refine congrArg Except.ok ((count_compiled compiled table.name).trans ?_)
        rw [List.append_nil]

theorem statement_ok {inquiry : Inquiry} {statement : Statement} :
    inquiry.statement = .ok statement ↔ ∃ fragment, inquiry.fragment = .ok fragment ∧ statement = fragment.statement := by
  rw [statement_fragment]
  cases inquiry.fragment <;> simp [Except.map, eq_comm]

end Inquiry

namespace Table

private theorem filter_order {condition : Option Condition} {filter : Fragment}
    (compiled : Table.condition condition = .ok filter) :
    filter.arguments = (condition.map Condition.values).getD [] ∧
      filter.names = (condition.map Condition.columns).getD [] := by
  rcases condition_ok.mp compiled with ⟨rfl, rfl⟩ | ⟨given, part, rfl, own, rfl⟩
  · exact ⟨rfl, rfl⟩
  · simpa using Condition.compiled_order own

private theorem filter_spaced {condition : Option Condition} {filter : Fragment}
    (compiled : Table.condition condition = .ok filter) :
    filter.Spaced ∧ ∀ piece ∈ filter.head?, piece.divides = true := by
  rcases condition_ok.mp compiled with ⟨rfl, rfl⟩ | ⟨given, part, rfl, own, rfl⟩
  · exact ⟨List.isChain_nil, by simp⟩
  · refine ⟨Fragment.Spaced.cons rfl (Condition.spaced_compiled own), ?_⟩
    rintro piece ⟨⟩
    rfl

private theorem projection_order (table : Table) :
    table.projection.arguments = [] ∧ table.projection.names = table.columnNames := by
  constructor
  · refine (Fragment.arguments_separated .comma (table.columnNames.map fun name => [.name name])).trans ?_
    simp [Function.comp_def]
  · refine (Fragment.names_separated .comma (table.columnNames.map fun name => [.name name])).trans ?_
    simp [Function.comp_def, ← List.flatMap_def]

private theorem ordering_order (order : List Order) :
    (ordering order).arguments = [] ∧ (ordering order).names = order.map (·.column) := by
  cases order with
  | nil => exact ⟨rfl, rfl⟩
  | cons first rest =>
    constructor
    · refine (Fragment.arguments_separated .listComma ((first :: rest).map Order.fragment)).trans ?_
      simp [Order.fragment, Function.comp_def]
    · refine (Fragment.names_separated .listComma ((first :: rest).map Order.fragment)).trans ?_
      rw [List.map_map, ← List.flatMap_def]
      exact List.map_eq_flatMap.symm

end Table

private theorem Window.fragment_order (window : Window) :
    window.fragment.arguments = window.values ∧ window.fragment.names = [] := by
  unfold Window.fragment Window.values
  rw [handedOver_signed, handedOver_signed]
  by_cases skips : window.offset > 0
  · simp [skips]
  · simp [skips]

private theorem Window.fragment_spaced (window : Window) :
    window.fragment.Spaced ∧ ∀ piece ∈ window.fragment.head?, piece.divides = true := by
  unfold Window.fragment
  constructor
  · by_cases skips : window.offset > 0
    · rw [if_pos skips]
      iterate 3 apply Fragment.Spaced.cons rfl
      exact List.isChain_singleton _
    · rw [if_neg skips]
      exact Fragment.Spaced.cons rfl (List.isChain_singleton _)
  · rintro piece ⟨⟩
    rfl

namespace Inquiry

private theorem head_order (inquiry : Inquiry) :
    inquiry.head.arguments = [] ∧ inquiry.head.names ++ (inquiry.condition.map Condition.columns).getD [] ++
      inquiry.tail.names = inquiry.names := by
  cases inquiry with
  | rows table selection window =>
    obtain ⟨arguments, names⟩ := table.projection_order
    have windowNames : Fragment.names ((window.map Window.fragment).getD []) = [] := by
      cases window with
      | none => rfl
      | some window => exact window.fragment_order.2
    simp [head, tail, condition, Inquiry.names, Fragment.arguments_append, Fragment.names_append, arguments, names,
      windowNames, (Table.ordering_order selection.order).2]
  | number table condition => simp [head, tail, Inquiry.condition, Inquiry.names]

private theorem tail_arguments (inquiry : Inquiry) :
    (inquiry.condition.map Condition.values).getD [] ++ inquiry.tail.arguments = inquiry.values := by
  cases inquiry with
  | rows table selection window =>
    have windowValues : Fragment.arguments ((window.map Window.fragment).getD []) = (window.map Window.values).getD [] := by
      cases window with
      | none => rfl
      | some window => exact window.fragment_order.1
    simp [tail, condition, values, Fragment.arguments_append, windowValues, (Table.ordering_order selection.order).1]
  | number table condition => simp [tail, Inquiry.condition, values]

/-- The slots of a statement take the values of the condition, then the window; the names in it are those
of the inquiry. -/
theorem fragment_order {inquiry : Inquiry} {fragment : Fragment} (compiled : inquiry.fragment = .ok fragment) :
    fragment.arguments = inquiry.values ∧ fragment.names = inquiry.names := by
  obtain ⟨filter, given, rfl⟩ := fragment_ok.mp compiled
  obtain ⟨arguments, names⟩ := Table.filter_order given
  obtain ⟨silent, ordered⟩ := inquiry.head_order
  constructor
  · rw [Fragment.arguments_append, Fragment.arguments_append, silent, arguments]
    exact inquiry.tail_arguments
  · rw [Fragment.names_append, Fragment.names_append, names]
    exact ordered

private theorem head_spaced (inquiry : Inquiry) : inquiry.head.Spaced := by
  cases inquiry with
  | rows table selection window =>
    apply Fragment.Spaced.append
    · apply Fragment.Spaced.cons rfl
      apply Fragment.Spaced.separated rfl rfl
      intro part member
      obtain ⟨name, _, rfl⟩ := List.mem_map.mp member
      exact List.isChain_singleton _
    · exact Fragment.Spaced.cons rfl (List.isChain_singleton _)
    · rintro piece ⟨⟩
      rfl
  | number table condition =>
    iterate 2 apply Fragment.Spaced.cons rfl
    exact List.isChain_singleton _

private theorem ordering_spaced (order : List Order) :
    (Table.ordering order).Spaced ∧ ∀ piece ∈ (Table.ordering order).head?, piece.divides = true := by
  cases order with
  | nil => exact ⟨List.isChain_nil, by simp [Table.ordering]⟩
  | cons first rest =>
    constructor
    · apply Fragment.Spaced.cons rfl
      apply Fragment.Spaced.separated rfl rfl
      intro part member
      obtain ⟨order, _, rfl⟩ := List.mem_map.mp member
      refine List.isChain_cons_cons.mpr ⟨fun _ => ?_, List.isChain_singleton _⟩
      cases order.ascending <;> rfl
    · rintro piece ⟨⟩
      rfl

private theorem tail_spaced (inquiry : Inquiry) :
    inquiry.tail.Spaced ∧ ∀ piece ∈ inquiry.tail.head?, piece.divides = true := by
  cases inquiry with
  | rows table selection window =>
    obtain ⟨spaced, divided⟩ := ordering_spaced selection.order
    cases window with
    | none =>
      simp only [tail, Option.map_none, Option.getD_none, List.append_nil]
      exact ⟨spaced, divided⟩
    | some window =>
      obtain ⟨windowSpaced, windowDivided⟩ := window.fragment_spaced
      refine ⟨spaced.append windowSpaced windowDivided, ?_⟩
      intro piece first
      rw [tail, Option.map_some, Option.getD_some, List.head?_append] at first
      rcases Option.or_eq_some_iff.mp first with found | ⟨_, found⟩
      · exact divided piece found
      · exact windowDivided piece found
  | number table condition => exact ⟨List.isChain_nil, by simp [tail]⟩

theorem spaced_fragment {inquiry : Inquiry} {fragment : Fragment} (compiled : inquiry.fragment = .ok fragment) :
    fragment.Spaced := by
  obtain ⟨filter, given, rfl⟩ := fragment_ok.mp compiled
  obtain ⟨filterSpaced, filterDivided⟩ := Table.filter_spaced given
  obtain ⟨tailSpaced, tailDivided⟩ := inquiry.tail_spaced
  exact (inquiry.head_spaced.append filterSpaced filterDivided).append tailSpaced tailDivided

end Inquiry

end Relmap
