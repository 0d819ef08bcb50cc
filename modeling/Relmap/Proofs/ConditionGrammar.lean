import Relmap.Proofs.ConditionTruth

/-! The grammar of conditions: brackets bind most tightly, then NOT, then AND, then OR. A compiled
condition is read by it as the tree that its brackets show. -/

namespace Relmap

/-- Reads a part from the beginning of some tokens and gives the tokens behind it. -/
abbrev TokenReader (α : Type) := List (Token Value) → Option (α × List (Token Value))

def Combinator.word : Combinator → String
  | .and => "AND"
  | .or => "OR"

/-- Operands under one node. A single operand stays what it is. -/
def Combinator.join (combinator : Combinator) : List Condition → Condition
  | [only] => only
  | operands => combinator.node operands

namespace Condition

def comparison? : String → Option Comparison
  | "=" => some .eq
  | "<>" => some .ne
  | ">" => some .gt
  | ">=" => some .ge
  | "<" => some .lt
  | "<=" => some .le
  | _ => none

def readValues : TokenReader (List Value)
  | .slot value :: .mark ")" :: rest => some ([value], rest)
  | .slot value :: .mark "," :: rest => (readValues rest).map fun (values, rest) => (value :: values, rest)
  | _ => none

def readLeaf : TokenReader Condition
  | .name column :: .word "LIKE" :: .slot (.text pattern) :: rest => some (.like column pattern, rest)
  | .name column :: .word "IN" :: .mark "(" :: rest =>
    (readValues rest).map fun (values, rest) => (.inList column values, rest)
  | .name column :: .word "BETWEEN" :: .slot first :: .word "AND" :: .slot last :: rest =>
    some (.between column first last, rest)
  | .name column :: .word "IS" :: .word "NULL" :: rest => some (.isNull column, rest)
  | .name column :: .word "IS" :: .word "NOT" :: .word "NULL" :: rest => some (.isNotNull column, rest)
  | .name column :: .mark symbol :: .slot value :: rest =>
    (comparison? symbol).map fun operator => (.compare operator column value, rest)
  | _ => none

def readOperands (word : String) (operand : TokenReader Condition) : Nat → TokenReader (List Condition)
  | 0, _ => none
  | bound + 1, tokens => do
    let (first, rest) ← operand tokens
    if rest.head? = some (.word word) then
      let (others, rest) ← readOperands word operand bound (rest.drop 1)
      return (first :: others, rest)
    else return ([first], rest)

def readCombination (combinator : Combinator) (operand : TokenReader Condition) : TokenReader Condition := fun tokens =>
  (readOperands combinator.word operand (tokens.length + 1) tokens).map fun (operands, rest) =>
    (combinator.join operands, rest)

/-- NOT takes the next negation, a condition in brackets or a predicate. -/
def readNegation (condition : TokenReader Condition) : TokenReader Condition
  | .word "NOT" :: rest => (readNegation condition rest).map fun (operand, rest) => (.not operand, rest)
  | .mark "(" :: rest =>
    match condition rest with
    | some (operand, .mark ")" :: rest) => some (.group operand, rest)
    | _ => none
  | tokens => readLeaf tokens

def readNested : Nat → TokenReader Condition
  | 0 => fun _ => none
  | depth + 1 => readCombination .or (readCombination .and (readNegation (readNested depth)))

/-- The condition that a text and its arguments are read as. The slots take the arguments from left to
right, and nothing of the text or of the arguments may be left. -/
def read (sql : String) (arguments : List Value) : Option Condition := do
  let tokens ← (Token.ofText sql.toList).bind (Token.fill · arguments)
  match readNested (tokens.length + 1) tokens with
  | some (condition, []) => return condition
  | _ => none

mutual

/-- A condition as its text shows it: every operand stands in brackets of its own, and of a
combination of one operand only the brackets are seen. -/
def written : Condition → Condition
  | .all operands => Combinator.and.join (writtenEach operands)
  | .any operands => Combinator.or.join (writtenEach operands)
  | .not operand => .not (.group operand.written)
  | .group operand => .group operand.written
  | condition => condition

def writtenEach : List Condition → List Condition
  | [] => []
  | operand :: rest => .group operand.written :: writtenEach rest

end

theorem written_leaf {condition : Condition} (isLeaf : condition.isLeaf = true) : condition.written = condition := by
  cases condition <;> first | rfl | contradiction

theorem written_node (combinator : Combinator) (operands : List Condition) :
    (combinator.node operands).written = combinator.join (operands.map fun operand => .group operand.written) := by
  have each : writtenEach operands = operands.map fun operand => .group operand.written := by
    induction operands with
    | nil => rfl
    | cons operand operands ih => rw [writtenEach, List.map_cons, ih]
  rw [← each]
  cases combinator <;> rfl

end Condition

/-- What a reader gives for some tokens whatever follows them, unless one of these words does. -/
def TokenReader.Reads {α : Type} (reader : TokenReader α) (words : List String) (tokens : List (Token Value))
    (result : α) : Prop :=
  ∀ rest : List (Token Value), (∀ word ∈ words, rest.head? ≠ some (.word word)) →
    reader (tokens ++ rest) = some (result, rest)

namespace Fragment

theorem tokens_append (first second : Fragment) : tokens (first ++ second) = first.tokens ++ second.tokens :=
  List.flatMap_append

theorem tokens_bracketed (part : Fragment) : part.bracketed.tokens = .mark "(" :: part.tokens ++ [.mark ")"] := by
  simp [bracketed, tokens, Piece.tokens, Keyword.tokens]

end Fragment

namespace Condition

variable {combinator : Combinator} {operand : TokenReader Condition} {words : List String}

private theorem tokens_separator (combinator : Combinator) :
    (Piece.keyword combinator.keyword).tokens = [.word combinator.word] := by
  cases combinator <;> rfl

private theorem readOperands_separated (other : combinator.word ∉ words) {parts : List Fragment}
    {results : List Condition}
    (each : List.Forall₂ (fun result part => operand.Reads words (Fragment.tokens part) result) results parts)
    (nonempty : parts ≠ []) {bound : Nat} (enough : parts.length ≤ bound) :
    TokenReader.Reads (readOperands combinator.word operand bound) (combinator.word :: words)
      (Fragment.separated combinator.keyword parts).tokens results := by
  induction each generalizing bound with
  | nil => contradiction
  | @cons result part results parts own others ih =>
    intro rest stops
    obtain ⟨stop, stops'⟩ := List.forall_mem_cons.mp stops
    cases bound with
    | zero => simp at enough
    | succ bound =>
      cases others with
      | nil =>
        rw [Fragment.separated, readOperands, own rest stops']
        simp [stop]
      | @cons result' next results parts own' others =>
        have behind := ih (by simp) (by simpa using enough) rest stops
        have tokens : (Fragment.separated combinator.keyword (part :: next :: parts)).tokens ++ rest =
            Fragment.tokens part ++ (.word combinator.word ::
              ((Fragment.separated combinator.keyword (next :: parts)).tokens ++ rest)) := by
          simp [Fragment.separated, Fragment.tokens, tokens_separator]
        have first := own (.word combinator.word ::
          ((Fragment.separated combinator.keyword (next :: parts)).tokens ++ rest))
          (by rintro word member ⟨⟩; exact other member)
        rw [tokens, readOperands, first]
        simp [behind]

private theorem length_separated (combinator : Combinator) (parts : List Fragment) :
    parts.length ≤ (Fragment.separated combinator.keyword parts).tokens.length + 1 := by
  fun_induction Fragment.separated combinator.keyword parts with
  | case1 => simp
  | case2 only => simp
  | case3 first rest _ ih =>
    simp [Fragment.tokens, tokens_separator] at ih ⊢
    omega

theorem readCombination_separated (other : combinator.word ∉ words) {parts : List Fragment} {results : List Condition}
    (each : List.Forall₂ (fun result part => operand.Reads words (Fragment.tokens part) result) results parts)
    (nonempty : parts ≠ []) :
    TokenReader.Reads (readCombination combinator operand) (combinator.word :: words)
      (Fragment.separated combinator.keyword parts).tokens (combinator.join results) := by
  intro rest stops
  have enough : parts.length ≤ ((Fragment.separated combinator.keyword parts).tokens ++ rest).length + 1 := by
    have := length_separated combinator parts
    simp
    omega
  rw [readCombination, readOperands_separated other each nonempty enough rest stops]
  rfl

theorem readCombination_single (other : combinator.word ∉ words) {part : Fragment} {result : Condition}
    (own : operand.Reads words part.tokens result) :
    TokenReader.Reads (readCombination combinator operand) (combinator.word :: words) part.tokens result :=
  readCombination_separated other (.cons own .nil) (by simp)

private theorem readNegation_bracketed {condition : TokenReader Condition} {part : Fragment} {result : Condition}
    (own : condition.Reads ["OR", "AND"] part.tokens result) :
    TokenReader.Reads (readNegation condition) [] part.bracketed.tokens (.group result) := by
  intro rest _
  have inner := own (.mark ")" :: rest) (by simp)
  rw [Fragment.tokens_bracketed]
  simp [readNegation, inner]

/-- What is read as an operand of NOT is read as a whole condition too. -/
theorem readNested_negation {depth : Nat} {part : Fragment} {result : Condition}
    (own : TokenReader.Reads (readNegation (readNested depth)) [] part.tokens result) :
    TokenReader.Reads (readNested (depth + 1)) ["OR", "AND"] part.tokens result := by
  have conjunction : TokenReader.Reads (readCombination .and (readNegation (readNested depth))) ["AND"] part.tokens result :=
    readCombination_single (by simp) own
  exact @readCombination_single .or _ _ (by decide) _ _ conjunction

private theorem readValues_separated (values : List Value) (nonempty : values ≠ []) (rest : List (Token Value)) :
    readValues ((Fragment.separated .listComma (values.map fun value => [.slot value])).tokens ++ .mark ")" :: rest) =
      some (values, rest) := by
  induction values with
  | nil => contradiction
  | cons value values ih =>
    cases values with
    | nil => simp [Fragment.separated, Fragment.tokens, Piece.tokens, readValues]
    | cons next values =>
      have behind := ih (by simp)
      have tokens : (Fragment.separated .listComma ((value :: next :: values).map fun value => [.slot value])).tokens =
          .slot value :: .mark "," :: (Fragment.separated .listComma ((next :: values).map fun value => [.slot value])).tokens :=
        rfl
      rw [tokens, List.cons_append, List.cons_append, readValues, behind]
      rfl

private theorem length_part {separator : Keyword} {parts : List Fragment} {part : Fragment} (member : part ∈ parts) :
    part.tokens.length ≤ (Fragment.separated separator parts).tokens.length := by
  fun_induction Fragment.separated separator parts with
  | case1 => contradiction
  | case2 only => rw [List.mem_singleton.mp member]
  | case3 first rest _ ih =>
    simp only [Fragment.tokens_append, List.length_append]
    rcases List.mem_cons.mp member with rfl | member
    · omega
    · have := ih member
      simp only [Fragment.tokens, List.flatMap_cons, List.length_append] at this ⊢
      omega

/-- The part is read as the brackets of the condition show it, whatever follows that is neither AND nor OR. Of brackets
inside brackets there are fewer than tokens. -/
def Readable (condition : Condition) (part : Fragment) : Prop :=
  ∀ {depth : Nat}, part.tokens.length ≤ depth →
    TokenReader.Reads (readNested (depth + 1)) ["OR", "AND"] part.tokens condition.written

/-- Brackets take two tokens, so what stands inside is nested less deeply. -/
private theorem readNegation_readable {condition : Condition} {part : Fragment} (own : condition.Readable part)
    {depth : Nat}
    (enough : part.bracketed.tokens.length ≤ depth) :
    TokenReader.Reads (readNegation (readNested depth)) [] part.bracketed.tokens (.group condition.written) := by
  rw [Fragment.tokens_bracketed] at enough
  simp only [List.length_append, List.length_cons] at enough
  cases depth with
  | zero => omega
  | succ depth => exact readNegation_bracketed (own (by omega))

private theorem readable_leaf {condition : Condition} (isLeaf : condition.isLeaf = true) {column : String}
    {pieces : Fragment}
    (reads : ∀ rest, readLeaf (.name column :: pieces.tokens ++ rest) = some (condition, rest)) :
    condition.Readable (.name column :: pieces) := by
  intro depth _
  apply readNested_negation
  intro rest _
  rw [written_leaf isLeaf]
  exact reads rest

private theorem readLeaf_inList (column : String) {values : List Value} (nonempty : values ≠ [])
    (rest : List (Token Value)) :
    readLeaf (.name column :: Fragment.tokens (.keyword .inList :: slots values) ++ rest) =
      some (.inList column values, rest) := by
  have listed := readValues_separated values nonempty rest
  have tokens : Fragment.tokens (.keyword .inList :: slots values) = .word "IN" ::
      .mark "(" :: ((Fragment.separated .listComma (values.map fun value => [.slot value])).tokens ++ [.mark ")"]) := by
    rw [← List.cons_append, ← Fragment.tokens_bracketed]
    rfl
  simp [tokens, readLeaf, listed]

private theorem readable_node (combinator : Combinator) {operands : List Condition} {parts : List Fragment}
    (nonempty : operands ≠ []) (each : List.Forall₂ Readable operands parts) :
    (combinator.node operands).Readable (Fragment.separated combinator.keyword (parts.map Fragment.bracketed)) := by
  intro depth enough
  have some : parts.map Fragment.bracketed ≠ [] := by
    cases each with
    | nil => contradiction
    | cons => simp
  have bracketed : List.Forall₂
      (fun result part => TokenReader.Reads (readNegation (readNested depth)) [] (Fragment.tokens part) result)
      (operands.map fun operand => .group operand.written) (parts.map Fragment.bracketed) := by
    simp only [List.forall₂_map_left_iff, List.forall₂_map_right_iff]
    apply forall₂_imp_mem each
    intro operand _ part member own
    have shorter : part.bracketed.tokens.length ≤ depth :=
      (length_part (List.mem_map.mpr ⟨part, member, rfl⟩)).trans enough
    exact readNegation_readable own shorter
  rw [written_node]
  cases combinator with
  | and =>
    have conjunction := @readCombination_separated .and _ _ (by simp) _ _ bracketed some
    exact @readCombination_single .or _ _ (by decide) _ _ conjunction
  | or =>
    apply readCombination_separated (by decide) _ some
    exact bracketed.imp fun _ _ own => readCombination_single (by simp) own

private theorem readable_not {operand : Condition} {part : Fragment} (own : operand.Readable part) :
    (Condition.not operand).Readable (.keyword .not :: part.bracketed) := by
  intro depth enough
  apply readNested_negation
  intro rest stops
  have inner := readNegation_readable own (Nat.le_of_lt enough) rest stops
  change (readNegation (readNested depth) (part.bracketed.tokens ++ rest)).map _ = _
  rw [inner]
  rfl

private theorem readable_group {operand : Condition} {part : Fragment} (own : operand.Readable part) :
    (Condition.group operand).Readable part.bracketed := by
  intro depth enough
  apply readNested_negation
  exact readNegation_readable own enough

private theorem readable_compiled {condition : Condition} {part : Fragment} (compiled : condition.fragment = .ok part) :
    condition.Readable part := by
  refine compiled_induction (motive := Readable)
    ?compare ?like ?inList ?between ?isNull ?isNotNull ?node ?not ?group compiled
  case compare =>
    intro operator column value
    exact readable_leaf rfl fun rest => by cases operator <;> rfl
  case like | isNull | isNotNull | between =>
    intros
    exact readable_leaf rfl fun rest => rfl
  case inList => exact fun column _ nonempty => readable_leaf rfl (readLeaf_inList column nonempty)
  case node => exact fun combinator _ _ => readable_node combinator
  case not => exact fun _ _ => readable_not
  case group => exact fun _ _ => readable_group

theorem read_compiled {condition : Condition} {part : Fragment} (compiled : condition.fragment = .ok part) :
    read part.text part.arguments = some condition.written := by
  have whole := readable_compiled compiled (Nat.le_refl _) [] (by simp)
  rw [List.append_nil] at whole
  simp [read, Fragment.fill_text (spaced_compiled compiled), whole]

example : read "not \"a\" = ? OR \"b\" BETWEEN ? AND ? AND \"c\" IS NULL" [.int 1, .null, .text "z"] =
    some (.any [.not (.compare .eq "a" (.int 1)), .all [.between "b" .null (.text "z"), .isNull "c"]]) := by cbv

end Condition

end Relmap
