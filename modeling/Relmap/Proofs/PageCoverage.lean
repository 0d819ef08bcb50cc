import Relmap.Proofs.RequestReading
import Relmap.Proofs.SessionCalls
import Relmap.Proofs.WindowArithmetic

/-! Pages of a database that answers from rows which do not change. Asked for one after the other until none
follows, they hold each row once and in order. -/

namespace Relmap

variable {σ α : Type}

namespace Request

def windowed (request : Request) (rows : List StoredRow) : List StoredRow :=
  let behind := rows.drop ((request.offset.map Int64.toNatClampNeg).getD 0)
  (request.limit.map fun limit => behind.take limit.toNatClampNeg).getD behind

/-- The reply of a database that holds some rows for each condition and order. -/
def answer (request : Request) (held : List (Token Value) → List (Token Value) → List StoredRow) : List StoredRow :=
  let rows := held request.filter request.order
  if request.counts then [[.integer (Int64.ofNat rows.length)]] else request.windowed rows

/-- A database has no rows past the largest signed word, so a window loses nothing when it is handed over. -/
theorem windowed_bounds (table : Table) (selection : Selection) (window : Window) (filter : Fragment)
    {rows : List StoredRow} (few : rows.length ≤ 0x7FFFFFFFFFFFFFFF) :
    ((Inquiry.rows table selection (some window)).request filter).windowed rows =
      (rows.drop window.offset.toNat).take window.limit.toNat := by
  have behind : rows.drop ((((Inquiry.rows table selection (some window)).request filter).offset.map
      Int64.toNatClampNeg).getD 0) = rows.drop window.offset.toNat := by
    simp only [Inquiry.request, Inquiry.window, Option.bind_some]
    by_cases skips : window.offset > 0
    · rw [if_pos skips, Option.map_some, Option.getD_some, saturatingSigned_toNat]
      exact List.drop_eq_drop_iff.mpr (by omega)
    · have none : window.offset.toNat = 0 := by
        rw [gt_iff_lt, UInt64.lt_iff_toNat_lt] at skips
        exact Nat.eq_zero_of_not_pos skips
      rw [if_neg skips, none]
      rfl
  have rest : (rows.drop window.offset.toNat).length ≤ 0x7FFFFFFFFFFFFFFF := by
    rw [List.length_drop]
    omega
  rw [windowed, behind]
  simp only [Inquiry.request, Inquiry.window, Option.map_some, Option.getD_some]
  rw [saturatingSigned_toNat]
  exact List.take_eq_take_iff.mpr (by omega)

end Request

namespace Driver

/-- Whatever its state is, the driver answers what it can read from the rows that it holds. -/
def Serves (driver : Driver σ) (held : List (Token Value) → List (Token Value) → List StoredRow) : Prop :=
  ∀ sql parameters bindings request, Request.read sql parameters bindings = some request →
    ∀ state, ((driver.query sql parameters bindings).run state).1 = .ok (request.answer held)

def serving (held : List (Token Value) → List (Token Value) → List StoredRow) : Driver Unit where
  query sql parameters bindings := return match Request.read sql parameters bindings with
    | some request => .ok (request.answer held)
    | none => .error ⟨"not a request"⟩
  statement _ _ _ := return .error ⟨"not a request"⟩

theorem serving_serves (held : List (Token Value) → List (Token Value) → List StoredRow) : (serving held).Serves held := by
  intro sql parameters bindings request read state
  simp only [serving, read]
  rfl

variable {driver : Driver σ} {held : List (Token Value) → List (Token Value) → List StoredRow} {table : Table}
  {selection : Selection} {filter : Fragment}

private theorem rows_served (served : driver.Serves held) {inquiry : Inquiry} {statement : Statement}
    (asked : inquiry.statement = .ok statement) (compiled : Table.condition inquiry.condition = .ok filter) (state : σ) :
    ((driver.rows statement).perform state).1 = .ok ((inquiry.request filter).answer held) := by
  have reply := served _ _ _ _ (Inquiry.read_request compiled asked) state
  rw [Driver.rows, Session.perform_request, reply]
  rfl

private theorem asked_compiled (inquiry : Inquiry) (compiled : Table.condition inquiry.condition = .ok filter) :
    ∃ statement, inquiry.statement = .ok statement :=
  ⟨_, Inquiry.statement_ok.mpr ⟨_, Inquiry.fragment_ok.mpr ⟨filter, compiled, rfl⟩, rfl⟩⟩

theorem selectRows_served (table : Table) (served : driver.Serves held) (compiled : Table.condition selection.condition = .ok filter)
    (window : Option Window) (state : σ) : ((driver.selectRows table selection window).perform state).1 =
      .ok ((((Inquiry.rows table selection window).request filter).windowed
        (held (filter.held.drop 1) ((Table.ordering selection.order).held.drop 1))).map (·.decode table)) := by
  obtain ⟨statement, asked⟩ := asked_compiled (.rows table selection window) compiled
  have reply := rows_served served asked compiled state
  rw [selectRows, show table.select selection.condition selection.order window = .ok statement from asked]
  change ((driver.executeSelect table statement).perform state).1 = _
  rw [executeSelect, Exchange.perform_bind_ok reply]
  rfl

theorem selectMapped_performed (mapper : Mapper α) {window : Option Window} {state : σ} {rows : List Row}
    (selected : ((driver.selectRows table selection window).perform state).1 = .ok rows) :
    ((driver.selectMapped table mapper selection window).perform state).1 = (rows.mapM mapper).mapError .read := by
  rw [selectMapped, Exchange.perform_bind_ok selected]
  cases rows.mapM mapper <;> rfl

theorem count_served (table : Table) (served : driver.Serves held) {condition : Option Condition}
    (compiled : Table.condition condition = .ok filter) (few : (held (filter.held.drop 1) []).length ≤ 0x7FFFFFFFFFFFFFFF)
    (state : σ) : ((driver.count table condition).perform state).1 =
      .ok (UInt64.ofNat (held (filter.held.drop 1) []).length) := by
  obtain ⟨statement, asked⟩ := asked_compiled (.number table condition) compiled
  have reply := rows_served served asked compiled state
  obtain ⟨clause, clauseCompiled, result⟩ := bind_eq_ok.mp asked
  cases result
  have number : ((driver.executeScalar (clause.count table.name)).perform state).1 =
      .ok (Int64.ofNat (held (filter.held.drop 1) []).length) := by
    rw [executeScalar, Exchange.perform_bind_ok reply]
    rfl
  rw [count, clauseCompiled]
  change ((driver.executeScalar (clause.count table.name) >>= _).perform state).1 = _
  rw [Exchange.perform_bind_ok number, Exchange.perform_pure, Int64.toInt_ofNat_of_lt (by omega)]
  rfl

end Driver

namespace PageRequest

def cut (request : PageRequest) (rows : List α) : List α :=
  (rows.drop ((request.number - 1) * request.span)).take request.span

theorem cut_length (request : PageRequest) (rows : List α) :
    (request.cut rows).length = min request.span (rows.length - (request.number - 1) * request.span) := by
  rw [cut, List.length_take, List.length_drop]

theorem cut_append (request : PageRequest) (rows : List α) :
    request.cut rows ++ rows.drop (request.number * request.span) = rows.drop ((request.number - 1) * request.span) := by
  rw [page_end request.number_positive, ← List.drop_drop, cut, List.take_append_drop]

/-- Numbers that are too large for a word skip all rows, as they should. -/
theorem windowed_cut (request : PageRequest) (table : Table) (selection : Selection) (filter : Fragment)
    {rows : List StoredRow} (few : rows.length ≤ 0x7FFFFFFFFFFFFFFF) :
    ((Inquiry.rows table selection (some request.window)).request filter).windowed rows = request.cut rows := by
  have behind : rows.drop request.window.offset.toNat = rows.drop ((request.number - 1) * request.span) := by
    rw [request.offset_toNat]
    exact List.drop_eq_drop_iff.mpr (by omega)
  rw [Request.windowed_bounds table selection request.window filter few, request.limit_toNat, behind, cut]

end PageRequest

namespace PageRequest

def served (request : PageRequest) (table : Table) (rows : List StoredRow) : Page Row :=
  request.shows ((request.cut rows).map (·.decode table))
    (if request.includeTotal then some (UInt64.ofNat rows.length) else none)

variable {rows : List StoredRow}

theorem served_next (request : PageRequest) (table : Table) (few : rows.length < 0x7FFFFFFFFFFFFFFF) (remain : request.number * request.span < rows.length) :
    (request.served table rows).hasNext = true := by
  have length := (request.cut rows).length_map (·.decode table) |>.trans (request.cut_length rows)
  have product : request.number * request.span = (request.number - 1) * request.span + request.span :=
    page_end request.number_positive
  unfold served
  cases request.includeTotal with
  | true => exact (hasNext_counted few.le length).mpr remain
  | false => exact (hasNext_uncounted (by omega)).mpr (by omega)

theorem served_more (request : PageRequest) (table : Table) (few : rows.length < 0x7FFFFFFFFFFFFFFF) (more : (request.served table rows).hasNext = true) :
    request.number * request.span < rows.length ∨
      request.includeTotal = false ∧ request.number * request.span = rows.length := by
  have length := (request.cut rows).length_map (·.decode table) |>.trans (request.cut_length rows)
  have product : request.number * request.span = (request.number - 1) * request.span + request.span :=
    page_end request.number_positive
  have spanned := request.span_positive
  unfold served at more
  cases counted : request.includeTotal with
  | true =>
    rw [counted] at more
    exact .inl ((hasNext_counted few.le length).mp more)
  | false =>
    rw [counted] at more
    have full := (hasNext_uncounted (by omega)).mp more
    have within : request.number * request.span ≤ rows.length := by omega
    rcases Nat.lt_or_eq_of_le within with less | same
    · exact .inl less
    · exact .inr ⟨rfl, same⟩

end PageRequest

private theorem mapM_ok (rows : List Row) : rows.mapM (Except.ok (ε := ReadError)) = .ok rows :=
  (List.mapM_pure (m := Except ReadError) (f := id)).trans (congrArg Except.ok (List.map_id rows))

namespace Driver

theorem pageMapped_performed {driver : Driver σ} {table : Table} {mapper : Mapper α} {selection : Selection}
    {request : PageRequest} {state : σ} {rows : List Row} {number : UInt64}
    (selected : ((driver.selectRows table selection (some request.window)).perform state).1 = .ok rows)
    (counted : ∀ state, ((driver.count table selection.condition).perform state).1 = .ok number) :
    ((driver.pageMapped table mapper selection request).perform state).1 =
      ((rows.mapM mapper).mapError .read).map fun items =>
        request.shows items (if request.includeTotal then some number else none) := by
  have mapped := selectMapped_performed mapper selected
  rw [pageMapped_shows, Exchange.perform_bind]
  cases performed : (driver.selectMapped table mapper selection (some request.window)).perform state with
  | mk result after =>
    rw [performed] at mapped
    cases mapped
    cases rows.mapM mapper with
    | error failure => rfl
    | ok items =>
      cases request.includeTotal with
      | false => rfl
      | true =>
        have total : ((some <$> driver.count table selection.condition).perform after).1 = .ok (some number) := by
          rw [Exchange.perform_map, counted]
          rfl
        exact congrArg Prod.fst (Exchange.perform_bind_ok total)

variable {driver : Driver σ} {rows : List StoredRow} {selection : Selection} {clause : WhereClause}

theorem pageRows_served (table : Table) (served : driver.Serves fun _ _ => rows) (few : rows.length < 0x7FFFFFFFFFFFFFFF)
    (compiled : WhereClause.ofCondition selection.condition = .ok clause) (request : PageRequest) (state : σ) :
    ((driver.pageRows table selection request).perform state).1 = .ok (request.served table rows) := by
  obtain ⟨filter, compiled⟩ := Table.condition_clause compiled
  have selected := selectRows_served table served compiled (some request.window) state
  rw [request.windowed_cut table selection filter few.le] at selected
  rw [pageRows, pageMapped_performed selected (count_served table served compiled few.le), mapM_ok]
  rfl

/-- Pages of one size from a number on, each fetched after the one before it, up to the first that no other
follows. -/
inductive Walk (driver : Driver σ) (table : Table) (selection : Selection) (size : Int64) (includeTotal : Bool) :
    Int64 → σ → List (Page Row) → σ → Prop where
  | last {number : Int64} {state after : σ} {page : Page Row}
    (fetched : (driver.pageRows table selection ⟨number, size, includeTotal⟩).perform state = (.ok page, after))
    (ends : page.hasNext = false) : Walk driver table selection size includeTotal number state [page] after
  | next {number : Int64} {state between after : σ} {page : Page Row} {pages : List (Page Row)}
    (fetched : (driver.pageRows table selection ⟨number, size, includeTotal⟩).perform state = (.ok page, between))
    (continues : page.hasNext = true)
    (rest : Walk driver table selection size includeTotal (number + 1) between pages after) :
    Walk driver table selection size includeTotal number state (page :: pages) after

/-- A page that a walk comes to: the first, one with rows, or an empty one right behind the last row if rows are
not counted. -/
def Reached (span length : Nat) (includeTotal : Bool) (number : Nat) : Prop :=
  number = 1 ∨ (number - 1) * span < length ∨ includeTotal = false ∧ (number - 1) * span = length

private theorem Reached.within {span length number : Nat} {includeTotal : Bool}
    (reached : Reached span length includeTotal number) : (number - 1) * span ≤ length := by
  rcases reached with rfl | before | ⟨_, full⟩
  · simp
  · exact Nat.le_of_lt before
  · exact Nat.le_of_eq full

private theorem Reached.bounded {span length number : Nat} {includeTotal : Bool} (spanned : 1 ≤ span)
    (few : length < 0x7FFFFFFFFFFFFFFF) (reached : Reached span length includeTotal number) : number < 0x8000000000000000 := by
  have each := Nat.le_mul_of_pos_right (number - 1) spanned
  have within := reached.within
  omega

/-- One step of a walk. The page holds the first of the rows that are left. If it says that no page follows, it
ends behind all rows, and otherwise the walk comes to the next page. -/
theorem fetch_reached (table : Table) (served : driver.Serves fun _ _ => rows) (few : rows.length < 0x7FFFFFFFFFFFFFFF)
    (compiled : WhereClause.ofCondition selection.condition = .ok clause) (size : Int64) (includeTotal : Bool)
    {span : Nat} (own : span = max 1 size.toInt.toNat) {number : Nat} (positive : 1 ≤ number)
    (reached : Reached span rows.length includeTotal number) (state : σ) :
    ∃ page after, (driver.pageRows table selection ⟨Int64.ofNat number, size, includeTotal⟩).perform state = (.ok page, after) ∧
      page.items ++ (rows.drop (number * span)).map (·.decode table) =
        (rows.drop ((number - 1) * span)).map (·.decode table) ∧
      (page.hasNext = false → rows.length ≤ number * span) ∧
      (page.hasNext = true → Reached span rows.length includeTotal (number + 1)) := by
  obtain ⟨request, asked⟩ : ∃ request : PageRequest, request = ⟨Int64.ofNat number, size, includeTotal⟩ := ⟨_, rfl⟩
  have bounded := reached.bounded (by omega) few
  have requestNumber : request.number = number := by
    rw [asked, PageRequest.number, Int64.toInt_ofNat_of_lt (by omega)]
    omega
  have requestSpan : request.span = span := by rw [asked, own, PageRequest.span]
  have counted : request.includeTotal = includeTotal := by rw [asked]
  have parts := request.cut_append rows
  have remain := request.served_next table few
  have more := request.served_more table few
  rw [requestNumber, requestSpan] at parts remain more
  rw [counted] at more
  have fetched := pageRows_served table served few compiled request state
  rw [← asked]
  refine ⟨request.served table rows, _, Prod.ext fetched rfl, ?_, ?_, fun continues => .inr (more continues)⟩
  · rw [← parts, List.map_append]
    rfl
  · intro ends
    by_contra left
    rw [remain (by omega)] at ends
    contradiction

private theorem walk_from (table : Table) (served : driver.Serves fun _ _ => rows)
    (few : rows.length < 0x7FFFFFFFFFFFFFFF)
    (compiled : WhereClause.ofCondition selection.condition = .ok clause) (size : Int64) (includeTotal : Bool)
    {span : Nat} (own : span = max 1 size.toInt.toNat) (first : Nat) (positive : 1 ≤ first)
    (reached : Reached span rows.length includeTotal first) (state : σ) :
    ∃ pages after last, driver.Walk table selection size includeTotal (Int64.ofNat first) state pages after ∧
      (pages.map Page.items).flatten = (rows.drop ((first - 1) * span)).map (·.decode table) ∧
      pages.getLast?.map Page.items = some ((rows.drop ((last - 1) * span)).map (·.decode table)) ∧
      first + pages.length = last + 1 ∧ rows.length ≤ last * span ∧ Reached span rows.length includeTotal last := by
  generalize remaining : rows.length - (first - 1) * span = rest
  induction rest using Nat.strongRecOn generalizing first state with
  | ind rest ih =>
    obtain ⟨page, between, fetched, parts, ends, continues⟩ :=
      fetch_reached table served few compiled size includeTotal own positive reached state
    cases follows : page.hasNext with
    | false =>
      have ended := ends follows
      rw [List.drop_eq_nil_of_le ended, List.map_nil, List.append_nil] at parts
      refine ⟨[page], between, first, .last fetched follows, ?_, ?_, rfl, ended, reached⟩
      · simpa using parts
      · exact congrArg Option.some parts
    | true =>
      have reached' := continues follows
      have product : first * span = (first - 1) * span + span := page_end positive
      have shorter : rows.length - first * span < rest := by
        have within := reached'.within
        rw [Nat.add_sub_cancel] at within
        omega
      obtain ⟨pages, after, last, walk, items, lastItems, count, ended, lastReached⟩ :=
        ih _ shorter (first + 1) (by omega) reached' between rfl
      have next : Int64.ofNat (first + 1) = Int64.ofNat first + 1 := Int64.ofNat_add first 1
      refine ⟨page :: pages, after, last, .next fetched follows (next ▸ walk), ?_, ?_, ?_, ended, lastReached⟩
      · rw [List.map_cons, List.flatten_cons, items, Nat.add_sub_cancel]
        exact parts
      · cases pages with
        | nil => contradiction
        | cons page pages => exact lastItems
      · rw [List.length_cons]
        omega

theorem Walk.unique {table : Table} {size number : Int64} {includeTotal : Bool} {state after after' : σ}
    {pages pages' : List (Page Row)} (walk : driver.Walk table selection size includeTotal number state pages after)
    (walk' : driver.Walk table selection size includeTotal number state pages' after') : pages = pages' ∧ after = after' := by
  induction walk generalizing pages' after' with
  | last fetched ends =>
    cases walk' with
    | last fetched' _ =>
      rw [fetched] at fetched'
      cases fetched'
      exact ⟨rfl, rfl⟩
    | next fetched' continues _ =>
      rw [fetched] at fetched'
      cases fetched'
      rw [ends] at continues
      contradiction
  | next fetched continues _ ih =>
    cases walk' with
    | last fetched' ends =>
      rw [fetched] at fetched'
      cases fetched'
      rw [ends] at continues
      contradiction
    | next fetched' _ rest' =>
      rw [fetched] at fetched'
      cases fetched'
      obtain ⟨rfl, rfl⟩ := ih rest'
      exact ⟨rfl, rfl⟩

/-- As many pages as hold all rows, and one where there are none. -/
def pageCount (span length : Nat) : Nat := max 1 ((length + span - 1) / span)

private theorem reached_count {span length last : Nat} {includeTotal : Bool} (spanned : 1 ≤ span) (positive : 1 ≤ last)
    (ended : length ≤ last * span) (reached : Reached span length includeTotal last) :
    last = pageCount span length ∨
      includeTotal = false ∧ last = pageCount span length + 1 ∧ (last - 1) * span = length := by
  have within : ∀ number, 1 ≤ number → (number - 1) * span < length → length ≤ number * span → number = pageCount span length := by
    intro number positive before ended
    have product : number * span = (number - 1) * span + span := page_end positive
    have quotient : (length + span - 1) / span = number := by
      apply Nat.div_eq_of_lt_le
      · omega
      · rw [Nat.succ_mul]
        omega
    rw [pageCount, quotient]
    omega
  have empty : length = 0 → pageCount span length = 1 := by
    rintro rfl
    rw [pageCount, Nat.div_eq_of_lt (by omega)]
    rfl
  rcases reached with rfl | before | ⟨uncounted, full⟩
  · left
    by_cases none : length = 0
    · exact (empty none).symm
    · exact within 1 positive (by omega) ended
  · left
    exact within last positive before ended
  · by_cases one : last = 1
    · subst one
      exact .inl (empty (by omega)).symm
    · have product : (last - 1) * span = (last - 1 - 1) * span + span := page_end (by omega)
      have own := within (last - 1) (by omega) (by omega) (Nat.le_of_eq full.symm)
      exact .inr ⟨uncounted, by omega, full⟩

/-- A database that holds the same rows for every condition and order gives each page its own part of them, and
says that another page follows as long as rows remain. Page after page from the first on, each row comes
once and in order, and the walk ends after as many pages as hold all rows. Only if rows are not counted one
more page may be fetched, and that page is empty. -/
theorem pages_cover (table : Table) (served : driver.Serves fun _ _ => rows) (few : rows.length < 0x7FFFFFFFFFFFFFFF)
    (compiled : WhereClause.ofCondition selection.condition = .ok clause) :
    (∀ (request : PageRequest) (state : σ), ∃ page, ((driver.pageRows table selection request).perform state).1 = .ok page ∧
      page.items = ((rows.drop ((request.number - 1) * request.span)).take request.span).map (·.decode table) ∧
      (request.includeTotal = true → (page.hasNext = true ↔ request.number * request.span < rows.length)) ∧
      (request.number * request.span < rows.length → page.hasNext = true)) ∧
    ∀ (size : Int64) (includeTotal : Bool) (state : σ), ∃ pages after,
      driver.Walk table selection size includeTotal 1 state pages after ∧
      (∀ others end', driver.Walk table selection size includeTotal 1 state others end' → others = pages) ∧
      (pages.map Page.items).flatten = rows.map (·.decode table) ∧
      (pages.length = pageCount (max 1 size.toInt.toNat) rows.length ∨
        includeTotal = false ∧ pages.length = pageCount (max 1 size.toInt.toNat) rows.length + 1 ∧
          pages.getLast?.map Page.items = some []) := by
  constructor
  · intro request state
    refine ⟨_, pageRows_served table served few compiled request state, rfl, ?_, request.served_next table few⟩
    intro counted
    refine ⟨?_, request.served_next table few⟩
    intro more
    rcases request.served_more table few more with remain | ⟨uncounted, _⟩
    · exact remain
    · rw [counted] at uncounted
      contradiction
  · intro size includeTotal state
    have spanned : 1 ≤ max 1 size.toInt.toNat := Nat.le_max_left 1 _
    obtain ⟨pages, after, last, walk, items, lastItems, count, ended, reached⟩ :=
      walk_from table served few compiled size includeTotal rfl 1 (Nat.le_refl 1) (.inl rfl) state
    have length : pages.length = last := by omega
    have nonempty : 1 ≤ pages.length := by
      cases pages with
      | nil => contradiction
      | cons page pages => simp
    rw [← length] at ended reached lastItems
    refine ⟨pages, after, walk, fun others end' walk' => (walk'.unique walk).1, by simpa using items, ?_⟩
    rcases reached_count spanned nonempty ended reached with same | ⟨uncounted, more, full⟩
    · exact .inl same
    · rw [full, List.drop_length] at lastItems
      exact .inr ⟨uncounted, more, lastItems⟩

theorem pages_cover_three :
    ∃ pages after, (serving fun _ _ => [[.integer 1], [.integer 2], [.integer 3]]).Walk
        ⟨"t", "T", [⟨"id", .integer, false, none, 1, true⟩]⟩ ⟨none, []⟩ 2 true 1 () pages after ∧
      (pages.map Page.items).flatten = [⟨[("id", .integer 1)]⟩, ⟨[("id", .integer 2)]⟩, ⟨[("id", .integer 3)]⟩] ∧
      pages.length = 2 := by
  obtain ⟨_, walks⟩ := @pages_cover _ _ _ ⟨none, []⟩ _ ⟨"t", "T", [⟨"id", .integer, false, none, 1, true⟩]⟩
    (serving_serves fun _ _ => [[.integer 1], [.integer 2], [.integer 3]]) (by decide) rfl
  obtain ⟨pages, after, walk, _, items, length⟩ := walks 2 true ()
  rcases length with length | ⟨uncounted, _⟩
  · exact ⟨pages, after, walk, items, length⟩
  · contradiction

end Driver

end Relmap
