import Relmap.Proofs.Inquiries

/-! How a database reads a request. The text is taken apart, each slot is filled with what is bound to it,
and a clause is what stands behind its word up to the word of the next clause. -/

namespace Relmap

/-- The argument that a database holds in the slot of a value. -/
def Value.held (value : Value) : Value := value.bound.value

namespace Bindings

private theorem assign_next (done : List Value) (value next : Value) (rest : List Value) :
    assign (done ++ next :: rest) done.length value = done ++ value :: rest := by
  have room : done.length + 1 - (done ++ next :: rest).length = 0 := by
    rw [List.length_append, List.length_cons]
    omega
  rw [assign, room, List.replicate_zero, List.append_nil]
  exact List.set_append_right _ _ (Nat.le_refl _) |>.trans (by simp)

private theorem slots_from (done : List Value) (arguments : List Value) :
    ((arguments.zipIdx done.length).map fun (value, index) => (index, value.bound)).foldl
        (fun slots (index, bound) => assign slots index bound.value) (done ++ List.replicate arguments.length Value.null) =
      done ++ arguments.map Value.held := by
  induction arguments generalizing done with
  | nil => rfl
  | cons value arguments ih =>
    have next := ih (done ++ [value.held])
    rw [List.length_append, List.length_singleton, List.append_assoc, List.append_assoc] at next
    rw [List.zipIdx_cons, List.map_cons, List.foldl_cons, List.length_cons, List.replicate_succ]
    dsimp only
    rw [assign_next]
    exact next

theorem slots_bindings (arguments : List Value) :
    slots arguments.length (bindings arguments) = arguments.map Value.held :=
  slots_from [] arguments

end Bindings

namespace Fragment

def held (fragment : Fragment) : List (Token Value) := fragment.tokens.map (Token.map Value.held)

theorem held_append (first second : Fragment) : (first ++ second).held = first.held ++ second.held := by
  simp [held, tokens]

private theorem fill_held {fragment : Fragment} (spaced : fragment.Spaced) :
    (Token.ofText fragment.text.toList).bind
      (Token.fill · (Bindings.slots fragment.arguments.length (bindings fragment.arguments))) = some fragment.held := by
  have emptied : fragment.tokens.map Token.emptied = fragment.held.map Token.emptied := by
    rw [held, List.map_map]
    congr 1
    funext token
    cases token <;> rfl
  have contents : fragment.arguments.map Value.held = fragment.held.filterMap Token.slot? := by
    rw [← arguments_tokens, held, List.filterMap_map, List.map_filterMap]
    congr 1
    funext token
    cases token <;> rfl
  rw [Bindings.slots_bindings, ofText_spaced spaced, contents, emptied]
  exact Token.fill_emptied fragment.held

end Fragment

/-- The words that begin the parts of a statement behind the table. -/
def clauseWords : List String := ["WHERE", "ORDER", "LIMIT", "OFFSET"]

namespace Token

private theorem where_known : "WHERE" ∈ clauseWords := by simp [clauseWords]

private theorem order_known : "ORDER" ∈ clauseWords := by simp [clauseWords]

private theorem limit_known : "LIMIT" ∈ clauseWords := by simp [clauseWords]

private theorem offset_known : "OFFSET" ∈ clauseWords := by simp [clauseWords]

def opensClause : Token Value → Bool
  | .word capitals => clauseWords.contains capitals
  | _ => false

/-- What stands behind a word up to the next clause. -/
def clause (word : String) (tokens : List (Token Value)) : List (Token Value) :=
  ((tokens.dropWhile (· != .word word)).drop 1).takeWhile (!opensClause ·)

def segment (word : String) : Option (List (Token Value)) → List (Token Value)
  | some body => .word word :: body
  | none => []

/-- Tokens inside one clause. -/
def Plain (tokens : List (Token Value)) : Prop := ∀ token ∈ tokens, token.opensClause = false

variable {word : String} {rest : List (Token Value)}

theorem clause_plain {tokens : List (Token Value)} (plain : Plain tokens) (known : word ∈ clauseWords) :
    clause word (tokens ++ rest) = clause word rest := by
  have passed : ∀ token ∈ tokens, (token != .word word) = true := by
    intro token member
    have closed := plain token member
    rw [bne_iff_ne]
    rintro rfl
    rw [opensClause, List.contains_iff_mem.mpr known] at closed
    contradiction
  rw [clause, clause, List.dropWhile_append_of_pos passed]

theorem clause_other {other : String} {body : Option (List (Token Value))} (plain : ∀ tokens ∈ body, Plain tokens)
    (known : word ∈ clauseWords) (different : word ≠ other) :
    clause word (segment other body ++ rest) = clause word rest := by
  cases body with
  | none => rfl
  | some body =>
    have passed : ((Token.word other : Token Value) != .word word) = true := by
      simp [different.symm]
    have skipped : clause word (segment other (some body) ++ rest) = clause word (body ++ rest) := by
      rw [segment, clause, List.cons_append, List.dropWhile_cons, if_pos passed]
      rfl
    rw [skipped, clause_plain (plain body rfl) known]

theorem clause_own {body : Option (List (Token Value))} (plain : ∀ tokens ∈ body, Plain tokens)
    (next : ∀ token ∈ rest.head?, token.opensClause = true) (absent : clause word rest = []) :
    clause word (segment word body ++ rest) = body.getD [] := by
  cases body with
  | none => exact absent
  | some body =>
    have inside : ∀ token ∈ body, (!token.opensClause) = true := by
      intro token member
      rw [plain body rfl token member]
      rfl
    have stop : rest.takeWhile (!opensClause ·) = [] := by
      cases rest with
      | nil => rfl
      | cons token rest => simp [next token rfl]
    simp [segment, clause, List.takeWhile_append_of_pos inside, stop]

end Token

namespace Piece

def opensClause : Piece → Bool
  | .keyword .whereRows | .keyword .orderBy | .keyword .limit | .keyword .offset => true
  | _ => false

private theorem plain_tokens {piece : Piece} (closed : piece.opensClause = false) :
    Token.Plain (piece.tokens.map (Token.map Value.held)) := by
  cases piece with
  | keyword word => cases word <;> first | contradiction | simp [Token.Plain, tokens, Keyword.tokens, Token.map,
      Token.opensClause, clauseWords]
  | name identifier => simp [Token.Plain, tokens, Token.map, Token.opensClause]
  | slot value => simp [Token.Plain, tokens, Token.map, Token.opensClause]

end Piece

namespace Fragment

def Plain (fragment : Fragment) : Prop := ∀ piece ∈ fragment, piece.opensClause = false

theorem Plain.held {fragment : Fragment} (plain : fragment.Plain) : Token.Plain fragment.held := by
  intro token member
  rw [Fragment.held, tokens, List.map_flatMap, List.mem_flatMap] at member
  obtain ⟨piece, inside, own⟩ := member
  exact Piece.plain_tokens (plain piece inside) token own

theorem Plain.append {first second : Fragment} (plain : first.Plain) (plain' : second.Plain) : Plain (first ++ second) :=
  List.forall_mem_append.mpr ⟨plain, plain'⟩

theorem Plain.cons {piece : Piece} {rest : Fragment} (closed : piece.opensClause = false) (plain : rest.Plain) :
    Plain (piece :: rest) :=
  List.forall_mem_cons.mpr ⟨closed, plain⟩

theorem Plain.bracketed {part : Fragment} (plain : part.Plain) : part.bracketed.Plain :=
  (plain.append (Plain.cons rfl (by simp [Plain]))).cons rfl

theorem Plain.separated {separator : Keyword} {parts : List Fragment} (closed : (Piece.keyword separator).opensClause = false)
    (plain : ∀ part ∈ parts, Plain part) : (Fragment.separated separator parts).Plain := by
  fun_induction Fragment.separated separator parts with
  | case1 => simp [Plain]
  | case2 only => exact plain only (by simp)
  | case3 first rest _ ih =>
    exact (plain first (by simp)).append ((ih fun part member => plain part (by simp [member])).cons closed)

end Fragment

namespace Condition

private theorem plain_compiled {condition : Condition} {part : Fragment} (compiled : condition.fragment = .ok part) :
    part.Plain := by
  refine compiled_induction (motive := fun _ part => Fragment.Plain part)
    ?compare ?like ?inList ?between ?isNull ?isNotNull ?node ?not ?group compiled
  case compare =>
    intro operator column value
    cases operator <;> simp [Fragment.Plain, Piece.opensClause, Comparison.keyword]
  case inList =>
    intro column values _
    iterate 2 apply Fragment.Plain.cons rfl
    apply Fragment.Plain.bracketed
    apply Fragment.Plain.separated rfl
    simp [Fragment.Plain, Piece.opensClause]
  case node =>
    intro combinator operands parts _ each
    apply Fragment.Plain.separated
    · cases combinator <;> rfl
    · intro part member
      obtain ⟨inner, inside, rfl⟩ := List.mem_map.mp member
      exact (forall_right_of_forall₂ each inner inside).bracketed
  case not =>
    intro operand part plain
    exact plain.bracketed.cons rfl
  case group =>
    intro operand part plain
    exact plain.bracketed
  all_goals
    intros
    simp [Fragment.Plain, Piece.opensClause]

end Condition

/-- What a database finds in a statement that begins with SELECT. -/
structure Request where
  /-- Whether the number of rows is asked for. -/
  counts : Bool
  filter : List (Token Value)
  order : List (Token Value)
  limit : Option Int64
  offset : Option Int64

namespace Request

def number : List (Token Value) → Option Int64
  | [.slot (.int number)] => some number
  | _ => none

def ofTokens : List (Token Value) → Option Request
  | .word "SELECT" :: tokens => some {
      counts := tokens.head? == some (.word "COUNT")
      filter := Token.clause "WHERE" tokens
      order := Token.clause "ORDER" tokens
      limit := number (Token.clause "LIMIT" tokens)
      offset := number (Token.clause "OFFSET" tokens) }
  | _ => none

/-- The request in a text with as many slots as stated and nothing missing in them. -/
def read (sql : String) (parameters : Nat) (bindings : Bindings) : Option Request := do
  ofTokens (← Token.fill (← Token.ofText sql.toList) (bindings.slots parameters))

private theorem opens_segment {word : String} (known : word ∈ clauseWords) (body : Option (List (Token Value)))
    {rest : List (Token Value)} (next : ∀ token ∈ rest.head?, token.opensClause = true) :
    ∀ token ∈ (Token.segment word body ++ rest).head?, token.opensClause = true := by
  cases body with
  | none => exact next
  | some body =>
    rintro token ⟨⟩
    exact List.contains_iff_mem.mpr known

private theorem ofTokens_segments {first : Token Value} {lead : List (Token Value)}
    {filter order limit offset : Option (List (Token Value))}
    (plain : Token.Plain (first :: lead)) (filterPlain : ∀ tokens ∈ filter, Token.Plain tokens)
    (orderPlain : ∀ tokens ∈ order, Token.Plain tokens) (limitPlain : ∀ tokens ∈ limit, Token.Plain tokens)
    (offsetPlain : ∀ tokens ∈ offset, Token.Plain tokens) :
    ofTokens (.word "SELECT" :: (first :: lead ++ (Token.segment "WHERE" filter ++ (Token.segment "ORDER" order ++
      (Token.segment "LIMIT" limit ++ (Token.segment "OFFSET" offset ++ [])))))) =
        some ⟨first == .word "COUNT", filter.getD [], order.getD [], number (limit.getD []), number (offset.getD [])⟩ := by
  have ends : ∀ token ∈ ([] : List (Token Value)).head?, token.opensClause = true := by simp
  have fromOffset := opens_segment Token.offset_known offset ends
  have fromLimit := opens_segment Token.limit_known limit fromOffset
  have fromOrder := opens_segment Token.order_known order fromLimit
  have filterRead : Token.clause "WHERE" (Token.segment "WHERE" filter ++ (Token.segment "ORDER" order ++
      (Token.segment "LIMIT" limit ++ (Token.segment "OFFSET" offset ++ [])))) = filter.getD [] := by
    apply Token.clause_own filterPlain fromOrder
    rw [Token.clause_other orderPlain Token.where_known (by simp), Token.clause_other limitPlain Token.where_known (by simp),
      Token.clause_other offsetPlain Token.where_known (by simp)]
    rfl
  have orderRead : Token.clause "ORDER" (Token.segment "WHERE" filter ++ (Token.segment "ORDER" order ++
      (Token.segment "LIMIT" limit ++ (Token.segment "OFFSET" offset ++ [])))) = order.getD [] := by
    rw [Token.clause_other filterPlain Token.order_known (by simp)]
    apply Token.clause_own orderPlain fromLimit
    rw [Token.clause_other limitPlain Token.order_known (by simp), Token.clause_other offsetPlain Token.order_known (by simp)]
    rfl
  have limitRead : Token.clause "LIMIT" (Token.segment "WHERE" filter ++ (Token.segment "ORDER" order ++
      (Token.segment "LIMIT" limit ++ (Token.segment "OFFSET" offset ++ [])))) = limit.getD [] := by
    rw [Token.clause_other filterPlain Token.limit_known (by simp), Token.clause_other orderPlain Token.limit_known (by simp)]
    apply Token.clause_own limitPlain fromOffset
    rw [Token.clause_other offsetPlain Token.limit_known (by simp)]
    rfl
  have offsetRead : Token.clause "OFFSET" (Token.segment "WHERE" filter ++ (Token.segment "ORDER" order ++
      (Token.segment "LIMIT" limit ++ (Token.segment "OFFSET" offset ++ [])))) = offset.getD [] := by
    rw [Token.clause_other filterPlain Token.offset_known (by simp), Token.clause_other orderPlain Token.offset_known (by simp),
      Token.clause_other limitPlain Token.offset_known (by simp)]
    exact Token.clause_own offsetPlain ends rfl
  rw [ofTokens, Token.clause_plain plain Token.where_known, Token.clause_plain plain Token.order_known,
    Token.clause_plain plain Token.limit_known, Token.clause_plain plain Token.offset_known, filterRead, orderRead, limitRead,
    offsetRead]
  rfl

end Request

namespace Inquiry

def counts : Inquiry → Bool
  | .rows .. => false
  | .number .. => true

def order : Inquiry → List Order
  | .rows _ selection _ => selection.order
  | .number .. => []

def window : Inquiry → Option Window
  | .rows _ _ window => window
  | .number .. => none

/-- The request that the inquiry is read as, given its compiled condition. -/
def request (inquiry : Inquiry) (filter : Fragment) : Request where
  counts := inquiry.counts
  filter := filter.held.drop 1
  order := (Table.ordering inquiry.order).held.drop 1
  limit := inquiry.window.map fun window => saturatingSigned window.limit
  offset := inquiry.window.bind fun window => if window.offset > 0 then some (saturatingSigned window.offset) else none

private theorem projection_lead (names : List String) (table : String) :
    ∃ first lead, Fragment.held (Fragment.separated .comma (names.map fun name => [.name name]) ++
        [.keyword .fromTable, .name table]) = first :: lead ∧ first ≠ .word "COUNT" := by
  match names with
  | [] => exact ⟨.word "FROM", _, rfl, by simp⟩
  | [only] => exact ⟨.name only, _, rfl, by simp⟩
  | first :: second :: rest => exact ⟨.name first, _, rfl, by simp⟩

private theorem head_lead (inquiry : Inquiry) : ∃ first lead, inquiry.head.held = .word "SELECT" :: first :: lead ∧
    Token.Plain (first :: lead) ∧ (first == .word "COUNT") = inquiry.counts := by
  cases inquiry with
  | rows table selection window =>
    obtain ⟨first, lead, shape, other⟩ := projection_lead table.columnNames table.name
    refine ⟨first, lead, congrArg (fun rest => Token.word "SELECT" :: rest) shape, ?_, beq_false_of_ne other⟩
    rw [← shape]
    apply Fragment.Plain.held
    refine Fragment.Plain.append (Fragment.Plain.separated rfl ?_) ?_
    · simp [Fragment.Plain, Piece.opensClause]
    · simp [Fragment.Plain, Piece.opensClause]
  | number table condition =>
    exact ⟨.word "COUNT", _, rfl, by simp [Token.Plain, Token.opensClause, Token.map, clauseWords, Piece.tokens,
      Keyword.tokens], rfl⟩

private theorem filter_segment {condition : Option Condition} {filter : Fragment}
    (compiled : Table.condition condition = .ok filter) :
    ∃ body, filter.held = Token.segment "WHERE" body ∧ (∀ tokens ∈ body, Token.Plain tokens) ∧
      body.getD [] = filter.held.drop 1 := by
  rcases Table.condition_ok.mp compiled with ⟨rfl, rfl⟩ | ⟨given, part, rfl, own, rfl⟩
  · exact ⟨none, rfl, by simp, rfl⟩
  · refine ⟨some part.held, rfl, ?_, rfl⟩
    rintro tokens ⟨⟩
    exact (Condition.plain_compiled own).held

private theorem order_segment (order : List Order) :
    ∃ body, (Table.ordering order).held = Token.segment "ORDER" body ∧ (∀ tokens ∈ body, Token.Plain tokens) ∧
      body.getD [] = (Table.ordering order).held.drop 1 := by
  cases order with
  | nil => exact ⟨none, rfl, by simp, rfl⟩
  | cons first rest =>
    refine ⟨some (Fragment.held (Table.ordering (first :: rest)) |>.drop 1), rfl, ?_, rfl⟩
    rintro tokens ⟨⟩
    have listed : Fragment.Plain (Fragment.separated .listComma ((first :: rest).map Order.fragment)) := by
      apply Fragment.Plain.separated rfl
      intro part member
      obtain ⟨order, _, rfl⟩ := List.mem_map.mp member
      cases ascending : order.ascending <;> simp [Fragment.Plain, Piece.opensClause, Order.fragment, ascending]
    exact List.forall_mem_cons.mpr ⟨rfl, listed.held⟩

private theorem window_segments (window : Option Window) :
    ∃ limit offset, Fragment.held ((window.map Window.fragment).getD []) =
        Token.segment "LIMIT" limit ++ (Token.segment "OFFSET" offset ++ []) ∧
      (∀ tokens ∈ limit, Token.Plain tokens) ∧ (∀ tokens ∈ offset, Token.Plain tokens) ∧
      Request.number (limit.getD []) = window.map (fun window => saturatingSigned window.limit) ∧
      Request.number (offset.getD []) =
        window.bind fun window => if window.offset > 0 then some (saturatingSigned window.offset) else none := by
  cases window with
  | none => exact ⟨none, none, rfl, by simp, by simp, rfl, rfl⟩
  | some window =>
    have number : ∀ n : Int64, Token.Plain [.slot (.int n)] := by
      simp [Token.Plain, Token.opensClause]
    refine ⟨some [.slot (.int (saturatingSigned window.limit))],
      if window.offset > 0 then some [.slot (.int (saturatingSigned window.offset))] else none, ?_, ?_, ?_, rfl, ?_⟩
    · rw [Option.map_some, Option.getD_some, Window.fragment]
      by_cases skips : window.offset > 0
      · rw [if_pos skips, if_pos skips]
        rfl
      · rw [if_neg skips, if_neg skips]
        rfl
    · rintro tokens ⟨⟩
      exact number _
    · intro tokens member
      by_cases skips : window.offset > 0
      · rw [if_pos skips] at member
        cases member
        exact number _
      · rw [if_neg skips] at member
        contradiction
    · rw [Option.bind_some]
      by_cases skips : window.offset > 0
      · rw [if_pos skips, if_pos skips]
        rfl
      · rw [if_neg skips, if_neg skips]
        rfl

private theorem tail_parts (inquiry : Inquiry) :
    inquiry.tail = Table.ordering inquiry.order ++ (inquiry.window.map Window.fragment).getD [] := by
  cases inquiry with
  | rows table selection window => rfl
  | number table condition => rfl

/-- The statement of an inquiry is read as what was asked, whatever the names in it are. -/
theorem read_request {inquiry : Inquiry} {filter : Fragment} (compiled : Table.condition inquiry.condition = .ok filter)
    {statement : Statement} (asked : inquiry.statement = .ok statement) :
    Request.read statement.sql statement.arguments.length (bindings statement.arguments) = some (inquiry.request filter) := by
  obtain ⟨fragment, own, rfl⟩ := statement_ok.mp asked
  have filled := Fragment.fill_held (spaced_fragment own)
  obtain ⟨filter', compiled', rfl⟩ := fragment_ok.mp own
  rw [compiled] at compiled'
  cases compiled'
  obtain ⟨first, lead, head, plain, counted⟩ := inquiry.head_lead
  obtain ⟨condition, filtered, conditionPlain, conditionBody⟩ := filter_segment compiled
  obtain ⟨order, ordered, orderPlain, orderBody⟩ := order_segment inquiry.order
  obtain ⟨limit, offset, bounded, limitPlain, offsetPlain, limitNumber, offsetNumber⟩ := window_segments inquiry.window
  have parts := Request.ofTokens_segments plain conditionPlain orderPlain limitPlain offsetPlain
  rw [← bounded, ← ordered, ← filtered, counted, conditionBody, orderBody, limitNumber, offsetNumber] at parts
  change (Token.ofText _).bind (fun tokens => (Token.fill tokens _).bind Request.ofTokens) = _
  rw [← Option.bind_assoc]
  refine (congrArg (Option.bind · Request.ofTokens) filled).trans ?_
  change Request.ofTokens (Fragment.held (inquiry.head ++ filter ++ inquiry.tail)) = _
  rw [Fragment.held_append, Fragment.held_append, head, tail_parts, Fragment.held_append, List.append_assoc]
  exact parts

end Inquiry

end Relmap
