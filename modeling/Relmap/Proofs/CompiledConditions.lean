import Relmap.Proofs.StatementTokens
import Relmap.Condition.Compile
import Mathlib.Data.List.Forall2

/-! Inductions over conditions and over their successful compilations. What holds of the predicates on
one column and is kept by each way of combining them holds of every condition. -/

namespace Relmap

theorem bind_eq_ok {ε α β : Type} {first : Except ε α} {next : α → Except ε β} {result : β} :
    (first >>= next) = .ok result ↔ ∃ value, first = .ok value ∧ next value = .ok result := by
  cases first <;> simp [bind, Except.bind]

theorem map_eq_of_forall₂ {α β γ : Type} {f : α → γ} {g : β → γ} {first : List α} {second : List β}
    (same : List.Forall₂ (fun a b => f a = g b) first second) : first.map f = second.map g := by
  induction same with
  | nil => rfl
  | cons equal _ ih => rw [List.map_cons, List.map_cons, equal, ih]

theorem forall₂_imp_mem {α β : Type} {before after : α → β → Prop} {first : List α} {second : List β}
    (each : List.Forall₂ before first second) (implies : ∀ a ∈ first, ∀ b ∈ second, before a b → after a b) :
    List.Forall₂ after first second := by
  induction each with
  | nil => exact .nil
  | cons own _ ih =>
    refine .cons (implies _ (by simp) _ (by simp) own) (ih ?_)
    intro a inside b inside'
    exact implies a (List.mem_cons_of_mem _ inside) b (List.mem_cons_of_mem _ inside')

theorem forall_right_of_forall₂ {α β : Type} {property : β → Prop} {first : List α} {second : List β}
    (each : List.Forall₂ (fun _ b => property b) first second) : ∀ b ∈ second, property b := by
  induction each with
  | nil => simp
  | cons own _ ih => exact List.forall_mem_cons.mpr ⟨own, ih⟩

theorem exists_forall₂ {α β : Type} {related : α → β → Prop} {first : List α} (each : ∀ a ∈ first, ∃ b, related a b) :
    ∃ second, List.Forall₂ related first second := by
  induction first with
  | nil => exact ⟨[], .nil⟩
  | cons a first ih =>
    obtain ⟨⟨b, own⟩, others⟩ := List.forall_mem_cons.mp each
    obtain ⟨second, rest⟩ := ih others
    exact ⟨b :: second, .cons own rest⟩

namespace Condition

def isLeaf : Condition → Bool
  | .all _ | .any _ | .not _ | .group _ => false
  | _ => true

theorem induction {motive : Condition → Prop} (leaf : ∀ condition, condition.isLeaf = true → motive condition)
    (node : ∀ (combinator : Combinator) operands, (∀ operand ∈ operands, motive operand) →
      motive (combinator.node operands))
    (not : ∀ operand, motive operand → motive (.not operand))
    (group : ∀ operand, motive operand → motive (.group operand)) (condition : Condition) : motive condition :=
  match condition with
  | .compare .. | .like .. | .inList .. | .between .. | .isNull .. | .isNotNull .. => leaf _ rfl
  | .all operands => node .and operands fun operand _ => induction leaf node not group operand
  | .any operands => node .or operands fun operand _ => induction leaf node not group operand
  | .not operand => not operand (induction leaf node not group operand)
  | .group operand => group operand (induction leaf node not group operand)

theorem fragment_node (combinator : Combinator) (operands : List Condition) :
    (combinator.node operands).fragment = (do joined combinator (← fragments operands)) := by
  cases combinator <;> rfl

theorem fragments_ok {operands : List Condition} {parts : List Fragment} :
    fragments operands = .ok parts ↔ List.Forall₂ (fun operand part => operand.fragment = .ok part) operands parts := by
  induction operands generalizing parts with
  | nil => simp [fragments, eq_comm]
  | cons operand operands ih =>
    simp only [fragments, bind_eq_ok, ih, List.forall₂_cons_left_iff, pure, Except.pure, Except.ok.injEq]
    constructor
    · rintro ⟨part, own, rest, others, rfl⟩
      exact ⟨part, rest, own, others, rfl⟩
    · rintro ⟨part, rest, own, others, rfl⟩
      exact ⟨part, own, rest, others, rfl⟩

theorem node_ok {combinator : Combinator} {operands : List Condition} {part : Fragment} :
    (combinator.node operands).fragment = .ok part ↔
      operands ≠ [] ∧ ∃ parts, List.Forall₂ (fun operand part => operand.fragment = .ok part) operands parts ∧
        part = Fragment.separated combinator.keyword (parts.map Fragment.bracketed) := by
  simp only [fragment_node, bind_eq_ok, fragments_ok, joined]
  constructor
  · intro ⟨parts, each, compiled⟩
    cases each with
    | nil => contradiction
    | cons own others =>
      refine ⟨by simp, _, .cons own others, ?_⟩
      simpa [eq_comm] using compiled
  · rintro ⟨nonempty, parts, each, rfl⟩
    refine ⟨parts, each, ?_⟩
    cases each with
    | nil => contradiction
    | cons own others => rfl

/-- The rules by which conditions are compiled, one for each kind of condition. -/
theorem compiled_induction {motive : Condition → Fragment → Prop}
    (compare : ∀ operator column value,
      motive (.compare operator column value) [.name column, .keyword operator.keyword, .slot value])
    (like : ∀ column pattern, motive (.like column pattern) [.name column, .keyword .like, .slot (.text pattern)])
    (inList : ∀ column values, values ≠ [] →
      motive (.inList column values) (.name column :: .keyword .inList :: slots values))
    (between : ∀ column first last, motive (.between column first last)
      [.name column, .keyword .between, .slot first, .keyword .and, .slot last])
    (isNull : ∀ column, motive (.isNull column) [.name column, .keyword .isNull])
    (isNotNull : ∀ column, motive (.isNotNull column) [.name column, .keyword .isNotNull])
    (node : ∀ (combinator : Combinator) operands parts, operands ≠ [] → List.Forall₂ motive operands parts →
      motive (combinator.node operands) (Fragment.separated combinator.keyword (parts.map Fragment.bracketed)))
    (not : ∀ operand part, motive operand part → motive (.not operand) (.keyword .not :: Fragment.bracketed part))
    (group : ∀ operand part, motive operand part → motive (.group operand) (Fragment.bracketed part))
    {condition : Condition} {part : Fragment} (compiled : condition.fragment = .ok part) : motive condition part := by
  induction condition using Condition.induction generalizing part with
  | leaf condition isLeaf =>
    cases condition with
    | compare operator column value => cases compiled; exact compare operator column value
    | like column pattern => cases compiled; exact like column pattern
    | inList column values =>
      cases values with
      | nil => contradiction
      | cons value values => cases compiled; exact inList column (value :: values) (by simp)
    | between column first last => cases compiled; exact between column first last
    | isNull column => cases compiled; exact isNull column
    | isNotNull column => cases compiled; exact isNotNull column
    | all operands | any operands | not operand | group operand => contradiction
  | node combinator operands ih =>
    obtain ⟨nonempty, parts, each, rfl⟩ := node_ok.mp compiled
    have held : List.Forall₂ motive operands parts :=
      forall₂_imp_mem each fun operand member part _ own => ih operand member own
    exact node combinator operands parts nonempty held
  | not operand ih =>
    obtain ⟨inner, own, result⟩ := bind_eq_ok.mp compiled
    cases result
    exact not operand inner (ih own)
  | group operand ih =>
    obtain ⟨inner, own, result⟩ := bind_eq_ok.mp compiled
    cases result
    exact group operand inner (ih own)

mutual

/-- No list of values and no combination in the condition is empty. -/
def complete : Condition → Bool
  | .inList _ values => !values.isEmpty
  | .all operands | .any operands => !operands.isEmpty && completeEach operands
  | .not operand | .group operand => operand.complete
  | _ => true

def completeEach : List Condition → Bool
  | [] => true
  | operand :: rest => operand.complete && completeEach rest

end

theorem complete_node (combinator : Combinator) (operands : List Condition) :
    (combinator.node operands).complete = (!operands.isEmpty && operands.all complete) := by
  have each : completeEach operands = operands.all complete := by
    induction operands with
    | nil => rfl
    | cons operand operands ih => rw [completeEach, List.all_cons, ih]
  rw [← each]
  cases combinator <;> rfl

private theorem complete_compiled {condition : Condition} {part : Fragment} (compiled : condition.fragment = .ok part) :
    condition.complete = true := by
  refine compiled_induction (motive := fun condition _ => condition.complete = true)
    ?compare ?like ?inList ?between ?isNull ?isNotNull ?node ?not ?group compiled
  case inList =>
    intro column values nonempty
    simpa [complete] using nonempty
  case node =>
    intro combinator operands parts nonempty each
    have all : ∀ operand ∈ operands, operand.complete = true := forall_right_of_forall₂ each.flip
    simp [complete_node, nonempty, List.all_eq_true.mpr all]
  case not | group =>
    intro operand part ih
    exact ih
  all_goals
    intros
    rfl

/-- A condition compiles exactly if it is complete. -/
theorem complete_iff {condition : Condition} : condition.complete = true ↔ ∃ part, condition.fragment = .ok part := by
  refine ⟨?_, fun ⟨_, compiled⟩ => complete_compiled compiled⟩
  intro complete
  induction condition using Condition.induction with
  | leaf condition isLeaf =>
    cases condition with
    | inList column values =>
      cases values with
      | nil => contradiction
      | cons value values => exact ⟨_, rfl⟩
    | all operands | any operands | not operand | group operand => contradiction
    | _ => exact ⟨_, rfl⟩
  | node combinator operands ih =>
    rw [complete_node, Bool.and_eq_true, List.all_eq_true] at complete
    obtain ⟨nonempty, each⟩ := complete
    obtain ⟨parts, compiled⟩ := exists_forall₂ fun operand member => ih operand member (each operand member)
    exact ⟨_, node_ok.mpr ⟨by simpa using nonempty, parts, compiled, rfl⟩⟩
  | not operand ih | group operand ih =>
    obtain ⟨part, own⟩ := ih complete
    exact ⟨_, bind_eq_ok.mpr ⟨part, own, rfl⟩⟩

mutual

def values : Condition → List Value
  | .compare _ _ value => [value]
  | .like _ pattern => [.text pattern]
  | .inList _ values => values
  | .between _ first last => [first, last]
  | .isNull _ | .isNotNull _ => []
  | .all operands | .any operands => valuesOf operands
  | .not operand | .group operand => operand.values

def valuesOf : List Condition → List Value
  | [] => []
  | operand :: rest => operand.values ++ valuesOf rest

end

mutual

def columns : Condition → List String
  | .compare _ column _ | .like column _ | .inList column _ | .between column _ _ => [column]
  | .isNull column | .isNotNull column => [column]
  | .all operands | .any operands => columnsOf operands
  | .not operand | .group operand => operand.columns

def columnsOf : List Condition → List String
  | [] => []
  | operand :: rest => operand.columns ++ columnsOf rest

end

theorem values_node (combinator : Combinator) (operands : List Condition) :
    (combinator.node operands).values = (operands.map values).flatten := by
  have each : valuesOf operands = (operands.map values).flatten := by
    induction operands with
    | nil => rfl
    | cons operand operands ih => simp [valuesOf, ih]
  cases combinator <;> exact each

private theorem columns_node (combinator : Combinator) (operands : List Condition) :
    (combinator.node operands).columns = (operands.map columns).flatten := by
  have each : columnsOf operands = (operands.map columns).flatten := by
    induction operands with
    | nil => rfl
    | cons operand operands ih => simp [columnsOf, ih]
  cases combinator <;> exact each

section Combined

variable {combinator : Combinator} {operands : List Condition} {combined : Condition}

/-- A node is put around two operands and more. -/
theorem combine_ok : combine combinator operands = .ok combined ↔
    operands = [combined] ∨ 2 ≤ operands.length ∧ combined = combinator.node operands := by
  match operands with
  | [] => simp [combine]
  | [only] => simp [combine]
  | first :: second :: rest => simp [combine, eq_comm]

theorem combine_some (combinator : Combinator) (nonempty : operands ≠ []) :
    ∃ combined, combine combinator operands = .ok combined := by
  match operands with
  | [] => contradiction
  | [only] => exact ⟨only, rfl⟩
  | first :: second :: rest => exact ⟨combinator.node (first :: second :: rest), rfl⟩

theorem complete_combined (done : combine combinator operands = .ok combined)
    (each : ∀ operand ∈ operands, operand.complete = true) : combined.complete = true := by
  rcases combine_ok.mp done with rfl | ⟨several, rfl⟩
  · exact each combined (by simp)
  · rw [complete_node, List.all_eq_true.mpr each]
    cases operands with
    | nil => contradiction
    | cons operand operands => rfl

theorem values_combined (done : combine combinator operands = .ok combined) :
    combined.values = (operands.map values).flatten := by
  rcases combine_ok.mp done with rfl | ⟨_, rfl⟩
  · exact (List.append_nil _).symm
  · exact values_node combinator operands

end Combined

end Condition

namespace Fragment

private theorem filterMap_separated {β : Type} (piece? : Piece → Option β)
    (silent : ∀ word, piece? (.keyword word) = none)
    (separator : Keyword) (parts : List Fragment) :
    (separated separator parts).filterMap piece? = (parts.map (List.filterMap piece?)).flatten := by
  fun_induction separated separator parts with
  | case1 => rfl
  | case2 only => simp
  | case3 first rest _ ih =>
    rw [List.filterMap_append, List.filterMap_cons_none (silent separator), ih]
    rfl

private theorem filterMap_bracketed {β : Type} (piece? : Piece → Option β)
    (silent : ∀ word, piece? (.keyword word) = none)
    (part : Fragment) : part.bracketed.filterMap piece? = part.filterMap piece? := by
  rw [bracketed, List.cons_append, List.filterMap_cons_none (silent .opening), List.filterMap_append,
    List.filterMap_cons_none (silent .closing)]
  exact List.append_nil _

theorem arguments_separated (separator : Keyword) (parts : List Fragment) :
    (separated separator parts).arguments = (parts.map arguments).flatten :=
  filterMap_separated Piece.argument? (fun _ => rfl) separator parts

theorem names_separated (separator : Keyword) (parts : List Fragment) :
    (separated separator parts).names = (parts.map names).flatten :=
  filterMap_separated Piece.name? (fun _ => rfl) separator parts

@[simp] theorem arguments_bracketed (part : Fragment) : part.bracketed.arguments = part.arguments :=
  filterMap_bracketed Piece.argument? (fun _ => rfl) part

@[simp] theorem names_bracketed (part : Fragment) : part.bracketed.names = part.names :=
  filterMap_bracketed Piece.name? (fun _ => rfl) part

end Fragment

namespace Condition

private theorem arguments_slots (values : List Value) : (slots values).arguments = values := by
  rw [slots, Fragment.arguments_bracketed, Fragment.arguments_separated, List.map_map]
  exact (List.flatMap_def ..).symm.trans (List.flatMap_singleton' values)

private theorem names_slots (values : List Value) : (slots values).names = [] := by
  rw [slots, Fragment.names_bracketed, Fragment.names_separated, List.map_map]
  simp [Fragment.names, Piece.name?, Function.comp_def]

/-- Values and columns stand in the text in the order of the tree. -/
theorem compiled_order {condition : Condition} {part : Fragment} (compiled : condition.fragment = .ok part) :
    part.arguments = condition.values ∧ part.names = condition.columns := by
  refine compiled_induction
    (motive := fun condition part => Fragment.arguments part = condition.values ∧ Fragment.names part = condition.columns)
    ?compare ?like ?inList ?between ?isNull ?isNotNull ?node ?not ?group compiled
  case inList =>
    intro column values _
    exact ⟨arguments_slots values, congrArg (column :: ·) (names_slots values)⟩
  case node =>
    intro combinator operands parts _ each
    have arguments : operands.map values = parts.map Fragment.arguments :=
      map_eq_of_forall₂ (each.imp fun _ _ ih => ih.1.symm)
    have names : operands.map columns = parts.map Fragment.names :=
      map_eq_of_forall₂ (each.imp fun _ _ ih => ih.2.symm)
    rw [Fragment.arguments_separated, Fragment.names_separated, values_node, columns_node, arguments, names]
    simp [Function.comp_def]
  case not | group =>
    intro operand part ih
    exact ⟨(Fragment.arguments_bracketed part).trans ih.1, (Fragment.names_bracketed part).trans ih.2⟩
  all_goals
    intros
    exact ⟨rfl, rfl⟩

private theorem spaced_leaf {column : String} {word : Keyword} {rest : Fragment}
    (divides : (Piece.keyword word).divides = true) (spaced : Fragment.Spaced (.keyword word :: rest)) :
    Fragment.Spaced (.name column :: .keyword word :: rest) :=
  List.isChain_cons_cons.mpr ⟨fun _ => divides, spaced⟩

private theorem spaced_slots (values : List Value) : (slots values).Spaced := by
  apply Fragment.Spaced.bracketed
  apply Fragment.Spaced.separated rfl rfl
  intro part member
  obtain ⟨value, _, rfl⟩ := List.mem_map.mp member
  exact List.isChain_singleton _

theorem spaced_compiled {condition : Condition} {part : Fragment} (compiled : condition.fragment = .ok part) :
    part.Spaced := by
  refine compiled_induction (motive := fun _ part => Fragment.Spaced part)
    ?compare ?like ?inList ?between ?isNull ?isNotNull ?node ?not ?group compiled
  case compare =>
    intro operator column value
    apply spaced_leaf
    · cases operator <;> rfl
    · apply Fragment.Spaced.cons
      · cases operator <;> rfl
      · exact List.isChain_singleton _
  case like =>
    intro column pattern
    exact spaced_leaf rfl (Fragment.Spaced.cons rfl (List.isChain_singleton _))
  case inList =>
    intro column values _
    exact spaced_leaf rfl (Fragment.Spaced.cons rfl (spaced_slots values))
  case between =>
    intro column first last
    apply spaced_leaf rfl
    iterate 3 apply Fragment.Spaced.cons rfl
    exact List.isChain_singleton _
  case isNull | isNotNull =>
    intro column
    exact spaced_leaf rfl (List.isChain_singleton _)
  case node =>
    intro combinator operands parts _ each
    apply Fragment.Spaced.separated
    · cases combinator <;> rfl
    · cases combinator <;> rfl
    · intro part member
      obtain ⟨inner, inside, rfl⟩ := List.mem_map.mp member
      exact (forall_right_of_forall₂ each inner inside).bracketed
  case not =>
    intro operand part spaced
    exact Fragment.Spaced.cons rfl spaced.bracketed
  case group =>
    intro operand part spaced
    exact spaced.bracketed

end Condition

end Relmap
