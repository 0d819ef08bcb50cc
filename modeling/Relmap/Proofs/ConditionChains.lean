import Mathlib.Order.Lattice
import Relmap.Proofs.ConditionReading

/-! Conditions that are combined one after the other, and conditions that are combined all at once. The left one of
two may take the other in, which changes the tree but neither its truth nor the order of its values. -/

namespace Relmap

namespace Truth

def rank : Truth → Nat
  | .no => 0
  | .unknown => 1
  | .yes => 2

private theorem rank_injective : Function.Injective rank := by
  intro first second same
  cases first <;> cases second <;> first | rfl | contradiction

instance : LinearOrder Truth := LinearOrder.lift' rank rank_injective

private theorem and_eq_min (first second : Truth) : first.and second = min first second := by
  cases first <;> cases second <;> rfl

private theorem or_eq_max (first second : Truth) : first.or second = max first second := by
  cases first <;> cases second <;> rfl

end Truth

namespace Combinator

/-- A conjunction is as true as its least true operand, a disjunction as its truest. -/
def pick : Combinator → Truth → Truth → Truth
  | .and => min
  | .or => max

def neutral : Combinator → Truth
  | .and => .yes
  | .or => .no

private theorem pick_assoc (combinator : Combinator) (first second third : Truth) :
    combinator.pick (combinator.pick first second) third = combinator.pick first (combinator.pick second third) := by
  cases combinator with
  | and => exact min_assoc first second third
  | or => exact max_assoc first second third

private theorem neutral_pick (combinator : Combinator) (truth : Truth) :
    combinator.pick combinator.neutral truth = truth := by
  cases combinator <;> cases truth <;> rfl

theorem truth_pick (combinator : Combinator) (operands : List Truth) :
    combinator.truth operands = operands.foldr combinator.pick combinator.neutral := by
  cases combinator with
  | and => exact congrArg (fun least => operands.foldr least .yes) (funext₂ Truth.and_eq_min)
  | or => exact congrArg (fun greatest => operands.foldr greatest .no) (funext₂ Truth.or_eq_max)

theorem truth_append (combinator : Combinator) (first second : List Truth) :
    combinator.truth (first ++ second) = combinator.pick (combinator.truth first) (combinator.truth second) := by
  simp only [truth_pick]
  induction first with
  | nil => exact (combinator.neutral_pick _).symm
  | cons truth first ih => rw [List.cons_append, List.foldr_cons, List.foldr_cons, ih, pick_assoc]

def attach : Combinator → Condition → Condition → Condition
  | .and => Condition.and
  | .or => Condition.or

def chain (combinator : Combinator) (first : Condition) (rest : List Condition) : Condition :=
  rest.foldl combinator.attach first

/-- The right condition stands behind the left one, or behind the operands of the left one if that is a node of the
same kind. -/
theorem attach_node (combinator : Combinator) (left right : Condition) :
    ∃ operands, (operands = [left] ∨ left = combinator.node operands) ∧
      combinator.attach left right = combinator.node (operands ++ [right]) := by
  cases combinator with
  | and =>
    cases left with
    | all operands => exact ⟨operands, .inr rfl, rfl⟩
    | _ => exact ⟨_, .inl rfl, rfl⟩
  | or =>
    cases left with
    | any operands => exact ⟨operands, .inr rfl, rfl⟩
    | _ => exact ⟨_, .inl rfl, rfl⟩

theorem truth_attach (combinator : Combinator) (left right : Condition) (leaf : Condition → Truth) :
    (combinator.attach left right).truth leaf = combinator.pick (left.truth leaf) (right.truth leaf) := by
  obtain ⟨operands, own, joined⟩ := combinator.attach_node left right
  have before : combinator.truth (operands.map (Condition.truth leaf)) = left.truth leaf := by
    rcases own with rfl | rfl
    · exact combinator.truth_single _
    · exact (Condition.truth_node leaf combinator operands).symm
  rw [joined, Condition.truth_node, List.map_append, truth_append, before, List.map_singleton, truth_single]

theorem values_attach (combinator : Combinator) (left right : Condition) :
    (combinator.attach left right).values = left.values ++ right.values := by
  obtain ⟨operands, own, joined⟩ := combinator.attach_node left right
  have before : (operands.map Condition.values).flatten = left.values := by
    rcases own with rfl | rfl
    · exact List.append_nil left.values
    · exact (Condition.values_node combinator operands).symm
  rw [joined, Condition.values_node, List.map_append, List.flatten_append, before]
  exact congrArg (left.values ++ ·) (List.append_nil right.values)

theorem complete_attach (combinator : Combinator) {left right : Condition} (first : left.complete = true)
    (second : right.complete = true) : (combinator.attach left right).complete = true := by
  obtain ⟨operands, own, joined⟩ := combinator.attach_node left right
  have before : operands.all Condition.complete = true := by
    rcases own with rfl | rfl
    · simpa using first
    · rw [Condition.complete_node, Bool.and_eq_true] at first
      exact first.2
  rw [joined, Condition.complete_node, List.all_append, before]
  simpa using second

theorem chain_append (combinator : Combinator) (first last : Condition) (rest : List Condition) :
    combinator.chain first (rest ++ [last]) = combinator.attach (combinator.chain first rest) last :=
  List.foldl_concat ..

private theorem truth_chain (combinator : Combinator) (first : Condition) (rest : List Condition)
    (leaf : Condition → Truth) :
    (combinator.chain first rest).truth leaf = combinator.truth ((first :: rest).map (Condition.truth leaf)) := by
  induction rest using List.reverseRecOn with
  | nil => exact (combinator.truth_single _).symm
  | append_singleton rest last ih =>
    rw [chain_append, truth_attach, ih, ← List.cons_append, List.map_append, truth_append, List.map_singleton, truth_single]

private theorem values_chain (combinator : Combinator) (first : Condition) (rest : List Condition) :
    (combinator.chain first rest).values = ((first :: rest).map Condition.values).flatten := by
  induction rest using List.reverseRecOn with
  | nil => exact (List.append_nil _).symm
  | append_singleton rest last ih =>
    rw [chain_append, values_attach, ih, ← List.cons_append, List.map_append, List.flatten_append]
    exact congrArg _ (List.append_nil _).symm

private theorem complete_chain (combinator : Combinator) {first : Condition} {rest : List Condition}
    (each : ∀ operand ∈ first :: rest, operand.complete = true) : (combinator.chain first rest).complete = true := by
  induction rest using List.reverseRecOn with
  | nil => exact each first (by simp)
  | append_singleton rest last ih =>
    rw [chain_append]
    apply combinator.complete_attach
    · apply ih
      intro operand member
      exact each operand (List.mem_append_left [last] member)
    · exact each last (by simp)

/-- One condition after the other or all at once comes to the same: whether or not the left one of two takes the other
in, the result is as true as the two together and has the values of the left one before those of the right one. So
for conditions in any number both ways have the truth of the least true condition, or of the truest, and the same
values in the same order, and both compile if each condition does. -/
theorem chains_agree (combinator : Combinator) :
    (∀ (operands : List Condition) leaf, (combinator.node operands).truth leaf =
      (operands.map (Condition.truth leaf)).foldr combinator.pick combinator.neutral) ∧
    (∀ (left right : Condition) leaf,
      (combinator.attach left right).truth leaf = combinator.pick (left.truth leaf) (right.truth leaf)) ∧
    (∀ left right : Condition, (combinator.attach left right).values = left.values ++ right.values) ∧
    ∀ first rest, ∃ combined, Condition.combine combinator (first :: rest) = .ok combined ∧
      (∀ leaf, (combinator.chain first rest).truth leaf = combinator.truth ((first :: rest).map (Condition.truth leaf)) ∧
        combined.truth leaf = combinator.truth ((first :: rest).map (Condition.truth leaf))) ∧
      (combinator.chain first rest).values = ((first :: rest).map Condition.values).flatten ∧
      combined.values = ((first :: rest).map Condition.values).flatten ∧
      ((∀ operand ∈ first :: rest, ∃ clause, WhereClause.ofCondition (some operand) = .ok clause) →
        ∃ chained atOnce, WhereClause.ofCondition (some (combinator.chain first rest)) = .ok chained ∧
          WhereClause.ofCondition (some combined) = .ok atOnce ∧ chained.arguments = atOnce.arguments) := by
  refine ⟨?_, combinator.truth_attach, combinator.values_attach, ?_⟩
  · intro operands leaf
    rw [Condition.truth_node, truth_pick]
  · intro first rest
    obtain ⟨combined, done⟩ := Condition.combine_some combinator (List.cons_ne_nil first rest)
    have chainValues := combinator.values_chain first rest
    have values := Condition.values_combined done
    refine ⟨combined, done, fun leaf => ⟨combinator.truth_chain first rest leaf, Condition.truth_combined leaf done⟩,
      chainValues, values, ?_⟩
    intro compile
    have each : ∀ operand ∈ first :: rest, operand.complete = true :=
      fun operand member => WhereClause.ofCondition_complete.mpr (compile operand member)
    obtain ⟨chained, chainCompiled⟩ := WhereClause.ofCondition_complete.mp (combinator.complete_chain each)
    obtain ⟨atOnce, compiled⟩ := WhereClause.ofCondition_complete.mp (Condition.complete_combined done each)
    refine ⟨chained, atOnce, chainCompiled, compiled, ?_⟩
    rw [WhereClause.arguments_compiled chainCompiled, WhereClause.arguments_compiled compiled, chainValues, values]

/-- The first disjunction takes in the conjunction and the second disjunction, which stays as it is. -/
theorem chains_agree_mixed :
    (∀ operand ∈ [Condition.any [.like "a" "x%"], .all [.inList "b" [.int 1, .null]], .any [.between "c" (.int 2) (.int 3), .isNull "d"]],
      ∃ clause, WhereClause.ofCondition (some operand) = .ok clause) ∧
    ∃ chained atOnce : WhereClause,
      WhereClause.ofCondition (some (((Condition.any [.like "a" "x%"]).or (.all [.inList "b" [.int 1, .null]])).or
        (.any [.between "c" (.int 2) (.int 3), .isNull "d"]))) = .ok chained ∧
      (Condition.anyOf [.any [.like "a" "x%"], .all [.inList "b" [.int 1, .null]],
        .any [.between "c" (.int 2) (.int 3), .isNull "d"]] >>= fun combined => WhereClause.ofCondition (some combined)) =
        .ok atOnce ∧
      chained.sql = some "(\"a\" LIKE ?) OR ((\"b\" IN (?, ?))) OR ((\"c\" BETWEEN ? AND ?) OR (\"d\" IS NULL))" ∧
      chained.sql ≠ atOnce.sql ∧ chained.arguments = atOnce.arguments := by
  obtain ⟨-, -, -, chains⟩ := chains_agree .or
  obtain ⟨combined, done, -, -, -, compile⟩ := chains (.any [.like "a" "x%"]) [.all [.inList "b" [.int 1, .null]],
    .any [.between "c" (.int 2) (.int 3), .isNull "d"]]
  cases done
  have each : ∀ operand ∈ [Condition.any [.like "a" "x%"], .all [.inList "b" [.int 1, .null]],
      .any [.between "c" (.int 2) (.int 3), .isNull "d"]], ∃ clause, WhereClause.ofCondition (some operand) = .ok clause := by
    simp only [List.forall_mem_cons]
    exact ⟨⟨_, rfl⟩, ⟨_, rfl⟩, ⟨_, rfl⟩, by simp⟩
  obtain ⟨chained, atOnce, first, second, same⟩ := compile each
  refine ⟨each, chained, atOnce, first, second, ?_, ?_, same⟩
  · cases first
    decide
  · cases first
    cases second
    decide

end Combinator

end Relmap
