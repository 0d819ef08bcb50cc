import Relmap.Proofs.PageCoverage

/-! What a query answers that is put together step by step. Whichever steps came in which order, each way of
running it comes to cutting one list of rows and reading what is left. -/

namespace Relmap

variable {σ α : Type}

/-- Rows are read in order. Either each of them gives an item, or the first that gives none is the error. -/
def ReadsAs (read : Mapper α) (rows : List Row) : Except QueryError (List α) → Prop
  | .ok items => List.Forall₂ (fun row item => read row = .ok item) rows items
  | .error error => ∃ before row after failure, rows = before ++ row :: after ∧
      (∀ earlier ∈ before, ∃ item, read earlier = .ok item) ∧ read row = .error failure ∧ error = .read failure

theorem readsAs_mapM (read : Mapper α) (rows : List Row) : ReadsAs read rows ((rows.mapM read).mapError .read) := by
  induction rows with
  | nil => exact .nil
  | cons row rows ih =>
    rw [List.mapM_cons]
    cases own : read row with
    | error failure => exact ⟨[], row, rows, failure, rfl, by simp, own, rfl⟩
    | ok item =>
      cases others : rows.mapM read with
      | ok items =>
        rw [others] at ih
        exact .cons own ih
      | error failure =>
        rw [others] at ih
        obtain ⟨before, unread, after, cause, rfl, earlier, failed, same⟩ := ih
        exact ⟨row :: before, unread, after, cause, rfl, List.forall_mem_cons.mpr ⟨⟨item, own⟩, earlier⟩, failed, same⟩

def readFirst (read : Mapper α) : List Row → Except QueryError (Option α)
  | [] => .ok none
  | row :: _ => ((read row).map some).mapError .read

/-- The only row is read. Of several rows the first two are, and an error in them comes before the error that there
are several. -/
def readOnly (read : Mapper α) : List Row → Except QueryError α
  | [] => .error .notFound
  | [row] => (read row).mapError .read
  | first :: second :: _ =>
    match read first, read second with
    | .ok _, .ok _ => .error .multipleObjects
    | .error failure, _ | .ok _, .error failure => .error (.read failure)

/-- What a page says beside its items, given the number of all rows. -/
structure PageRequest.Describes (request : PageRequest) (length : Nat) (page : Page α) : Prop where
  size : page.size.toNat = request.span
  total : page.total.map UInt64.toNat = if request.includeTotal then some length else none
  next : page.hasNext = true ↔
    if request.includeTotal then request.number * request.span < length else page.items.length = request.span

private theorem PageRequest.describes_cut (request : PageRequest) {rows : List Row} {items : List α}
    (few : rows.length ≤ 0x7FFFFFFFFFFFFFFF) (cut : items.length = (request.cut rows).length) :
    request.Describes rows.length
      (request.shows items (if request.includeTotal then some (UInt64.ofNat rows.length) else none)) := by
  rw [request.cut_length] at cut
  refine ⟨request.limit_toNat, ?_, ?_⟩
  · cases request.includeTotal with
    | false => rfl
    | true => exact congrArg some (counted_fits few)
  · cases request.includeTotal with
    | false => exact hasNext_uncounted (by omega)
    | true => exact hasNext_counted few cut

namespace QuerySet

inductive Step where
  | filter (condition : Condition)
  | exclude (condition : Condition)
  | orderBy (spec : String)
  | limit (rows : UInt64)
  | offset (rows : UInt64)

namespace Step

def apply (query : QuerySet α) : Step → QuerySet α
  | .filter condition => query.filter condition
  | .exclude condition => query.exclude condition
  | .orderBy spec => query.orderBy spec
  | .limit rows => query.limited rows
  | .offset rows => query.skipping rows

def filter? : Step → Option Condition
  | .filter condition => some condition
  | _ => none

def exclude? : Step → Option Condition
  | .exclude condition => some condition
  | _ => none

def order? : Step → Option Order
  | .orderBy spec => some (.parse spec)
  | _ => none

def condition? : Step → Option Condition
  | .filter condition | .exclude condition => some condition
  | _ => none

def limit? : Step → Option UInt64
  | .limit rows => some rows
  | _ => none

def offset? : Step → Option UInt64
  | .offset rows => some rows
  | _ => none

end Step

def built (entity : Entity α) (registry : Option Registry) (steps : List Step) : QuerySet α :=
  steps.foldl Step.apply { entity, registry }

/-- Conditions and orders are collected in the order of the steps, and of limits and offsets the last counts. -/
theorem built_fields (entity : Entity α) (registry : Option Registry) (steps : List Step) :
    built entity registry steps = {
      entity, registry
      filters := steps.filterMap Step.filter?
      excludes := steps.filterMap Step.exclude?
      order := steps.filterMap Step.order?
      limit := (steps.filterMap Step.limit?).getLast?
      offset := (steps.filterMap Step.offset?).getLast? } := by
  induction steps using List.reverseRecOn with
  | nil => rfl
  | append_singleton steps step ih =>
    rw [built, List.foldl_append, ← built, ih]
    cases step <;> simp [Step.apply, filter, exclude, orderBy, limited, skipping, Step.filter?, Step.exclude?,
      Step.order?, Step.limit?, Step.offset?]

theorem condition_some {query : QuerySet α} {condition : Condition} : query.condition = some condition ↔
    Condition.combine .and (query.filters ++ query.excludes.map .not) = .ok condition := by
  rw [QuerySet.condition, Condition.allOf]
  cases Condition.combine .and (query.filters ++ query.excludes.map .not) <;> simp [Except.toOption]

private theorem condition_compiled {query : QuerySet α}
    (filters : ∀ condition ∈ query.filters, ∃ part, condition.fragment = .ok part)
    (excludes : ∀ condition ∈ query.excludes, ∃ part, condition.fragment = .ok part) :
    ∃ filter, Table.condition query.condition = .ok filter := by
  have each : ∀ condition ∈ query.filters ++ query.excludes.map .not, condition.complete = true := by
    intro condition member
    rcases List.mem_append.mp member with member | member
    · exact Condition.complete_iff.mpr (filters condition member)
    · obtain ⟨excluded, inside, rfl⟩ := List.mem_map.mp member
      have own : excluded.complete = true := Condition.complete_iff.mpr (excludes excluded inside)
      exact own
  cases own : query.condition with
  | none => exact ⟨[], rfl⟩
  | some condition =>
    have complete := Condition.complete_combined (condition_some.mp own) each
    obtain ⟨part, compiled⟩ := Condition.complete_iff.mp complete
    exact ⟨_, Table.condition_ok.mpr (.inr ⟨condition, part, rfl, compiled, rfl⟩)⟩

/-- The rows behind the offset, as many of them as the limit allows. -/
def bounded {β : Type} (offset : Nat) (limit : Option Nat) (rows : List β) : List β :=
  match limit with
  | some limit => (rows.drop offset).take limit
  | none => rows.drop offset

def skipped (query : QuerySet α) : Nat := (query.offset.map UInt64.toNat).getD 0

/-- A limit of nothing still asks for one row. -/
def most (query : QuerySet α) : Option Nat := query.limit.map fun limit => max 1 limit.toNat

private theorem windowed_bounded (query : QuerySet α) (table : Table) (filter : Fragment) {rows : List StoredRow}
    (few : rows.length ≤ 0x7FFFFFFFFFFFFFFF) :
    ((Inquiry.rows table query.selection query.window).request filter).windowed rows =
      bounded query.skipped query.most rows := by
  unfold window most skipped
  cases query.limit with
  | some limit =>
    have size : (max limit 1).toNat = max 1 limit.toNat := (UInt64.toNat_max limit 1).trans (Nat.max_comm _ _)
    have start : (query.offset.getD 0).toNat = (query.offset.map UInt64.toNat).getD 0 := by
      cases query.offset <;> rfl
    rw [Request.windowed_bounds _ _ _ _ few, Window.of, size, start]
    rfl
  | none =>
    cases query.offset with
    | none => rfl
    | some offset =>
      have all : (rows.drop offset.toNat).length ≤ 18446744073709551615 := by
        rw [List.length_drop]
        omega
      exact (Request.windowed_bounds _ _ _ _ few).trans (List.take_of_length_le all)

/-- What each way of running a query comes to, in terms of the rows that its conditions and its order give. -/
structure Answers (query : QuerySet α) (installed : Installation) (driver : Driver σ) (state : σ) (rows : List Row)
    (offset : Nat) (limit : Option Nat) : Prop where
  fetch : ReadsAs query.entity.read (bounded offset limit rows) ((query.fetch installed driver).perform state).1
  first : ((query.first installed driver).perform state).1 = readFirst query.entity.read (rows.drop offset)
  head : ∀ items, ((query.fetch installed driver).perform state).1 = .ok items →
    ((query.first installed driver).perform state).1 = .ok items.head?
  get : ((query.get installed driver).perform state).1 = readOnly query.entity.read (rows.drop offset)
  count : ∃ number, ((query.count installed driver).perform state).1 = .ok number ∧ number.toNat = rows.length
  hasAny : ((query.hasAny installed driver).perform state).1 = .ok (!rows.isEmpty)
  page : ∀ request : PageRequest,
    ReadsAs query.entity.read (request.cut rows) (((query.page installed driver request).perform state).1.map Page.items) ∧
    ∀ page, ((query.page installed driver request).perform state).1 = .ok page → request.Describes rows.length page

private theorem most_positive (query : QuerySet α) : ∀ limit ∈ query.most, 1 ≤ limit := by
  intro limit member
  obtain ⟨given, _, rfl⟩ := Option.map_eq_some_iff.mp member
  exact Nat.le_max_left 1 _

private theorem head_bounded {β : Type} {offset : Nat} {limit : Option Nat} (positive : ∀ most ∈ limit, 1 ≤ most)
    (rows : List β) : (bounded offset limit rows).head? = (rows.drop offset).head? := by
  cases limit with
  | none => rfl
  | some most =>
    rw [bounded, List.head?_take, if_neg (Nat.ne_of_gt (positive most rfl))]

private theorem first_fetched {read : Mapper α} {rows behind : List Row} {items : List α}
    (reads : ReadsAs read rows (.ok items))
    (same : rows.head? = behind.head?) : readFirst read behind = .ok items.head? := by
  cases reads with
  | nil =>
    cases behind with
    | nil => rfl
    | cons row rest => cases same
  | cons own others =>
    cases behind with
    | nil => cases same
    | cons row rest =>
      cases same
      rw [readFirst, own]
      rfl

private theorem some_exist {rows : List Row} {number : UInt64} (counted : number.toNat = rows.length) :
    decide (number > 0) = !rows.isEmpty := by
  have positive : number > 0 ↔ rows ≠ [] := by
    rw [gt_iff_lt, UInt64.lt_iff_toNat_lt, counted]
    exact List.length_pos_iff
  rw [decide_eq_decide.mpr positive]
  cases rows <;> rfl

section Terminals

variable {query : QuerySet α} {installed : Installation} {driver : Driver σ}
  {held : List (Token Value) → List (Token Value) → List StoredRow} {table : Table} {filter : Fragment}

/-- The rows that a database holds for the query's conditions and order, as the table decodes them. -/
def matched (query : QuerySet α) (held : List (Token Value) → List (Token Value) → List StoredRow) (table : Table)
    (filter : Fragment) : List Row :=
  (held (filter.held.drop 1) ((Table.ordering query.order).held.drop 1)).map (·.decode table)

theorem bounded_map {β γ : Type} (f : β → γ) (offset : Nat) (limit : Option Nat) (rows : List β) :
    (bounded offset limit rows).map f = bounded offset limit (rows.map f) := by
  cases limit with
  | none => exact List.map_drop
  | some limit => rw [bounded, bounded, List.map_take, List.map_drop]

variable (served : driver.Serves held) (resolved : query.table installed = .ok table)
  (compiled : Table.condition query.condition = .ok filter)
  (few : ∀ filter order, (held filter order).length ≤ 0x7FFFFFFFFFFFFFFF)

include served resolved compiled few

theorem fetch_served (state : σ) :
    ((query.fetch installed driver).perform state).1 =
      ((bounded query.skipped query.most (query.matched held table filter)).mapM query.entity.read).mapError .read := by
  have selected : ((driver.selectRows table query.selection query.window).perform state).1 = _ :=
    Driver.selectRows_served table served compiled query.window state
  rw [windowed_bounded query table filter (few _ _), bounded_map] at selected
  rw [fetch_selects, resolved]
  exact Driver.selectMapped_performed _ selected

theorem limited_served (limit : UInt64) (state : σ) :
    (((query.limited limit).fetch installed driver).perform state).1 =
      ((((query.matched held table filter).drop query.skipped).take (max 1 limit.toNat)).mapM query.entity.read).mapError
        .read := by
  have unchanged : (query.limited limit).table installed = .ok table := resolved
  have filtered : Table.condition (query.limited limit).condition = .ok filter := compiled
  exact fetch_served served unchanged filtered few state

private theorem first_served (state : σ) :
    ((query.first installed driver).perform state).1 =
      readFirst query.entity.read ((query.matched held table filter).drop query.skipped) := by
  have fetched := limited_served served resolved compiled few 1 state
  have alone : query.first installed driver = List.head? <$> (query.limited 1).fetch installed driver :=
    (map_eq_pure_bind _ _).symm
  rw [alone, Exchange.perform_map, fetched, show max 1 (1 : UInt64).toNat = 1 from rfl]
  cases (query.matched held table filter).drop query.skipped with
  | nil => rfl
  | cons row rest =>
    rw [List.take_succ_cons, List.take_zero, List.mapM_cons, readFirst]
    cases query.entity.read row <;> rfl

/-- Two rows are asked for, since two that can be read are too many already. -/
theorem get_served (state : σ) :
    ((query.get installed driver).perform state).1 =
      readOnly query.entity.read ((query.matched held table filter).drop query.skipped) := by
  have fetched := limited_served served resolved compiled few 2 state
  rw [show max 1 (2 : UInt64).toNat = 2 from rfl] at fetched
  rw [get, Exchange.perform_bind]
  cases performed : ((query.limited 2).fetch installed driver).perform state with
  | mk result after =>
    rw [performed] at fetched
    cases fetched
    match (query.matched held table filter).drop query.skipped with
    | [] => rfl
    | [row] =>
      rw [List.take_succ_cons, List.take_nil, List.mapM_cons, readOnly]
      cases query.entity.read row <;> rfl
    | row :: second :: _ =>
      rw [List.take_succ_cons, List.take_succ_cons, List.take_zero, List.mapM_cons, List.mapM_cons, readOnly]
      cases query.entity.read row with
      | error failure => rfl
      | ok item => cases query.entity.read second <;> rfl

omit served resolved compiled few in
/-- The order of the rows changes none of their number. -/
theorem matched_length (same : ∀ filter order order', (held filter order).length = (held filter order').length) :
    (held (filter.held.drop 1) []).length = (query.matched held table filter).length := by
  rw [matched, List.length_map]
  exact same _ _ _

omit served resolved compiled in
theorem matched_few : (query.matched held table filter).length ≤ 0x7FFFFFFFFFFFFFFF := by
  rw [matched, List.length_map]
  exact few _ _

theorem count_served (same : ∀ filter order order', (held filter order).length = (held filter order').length) (state : σ) :
    ((query.count installed driver).perform state).1 = .ok (UInt64.ofNat (query.matched held table filter).length) := by
  rw [count, resolved, ← matched_length same]
  exact Driver.count_served table served compiled (few _ _) state

private theorem page_served (same : ∀ filter order order', (held filter order).length = (held filter order').length)
    (request : PageRequest) (state : σ) : ((query.page installed driver request).perform state).1 =
      (((request.cut (query.matched held table filter)).mapM query.entity.read).mapError .read).map fun items =>
        request.shows items
          (if request.includeTotal then some (UInt64.ofNat (query.matched held table filter).length) else none) := by
  have selected : ((driver.selectRows table query.selection (some request.window)).perform state).1 = _ :=
    Driver.selectRows_served table served compiled (some request.window) state
  rw [request.windowed_cut table query.selection filter (few _ _)] at selected
  have cut : (request.cut (held (filter.held.drop 1) ((Table.ordering query.selection.order).held.drop 1))).map (·.decode table) =
      request.cut (query.matched held table filter) := bounded_map _ _ (some request.span) _
  rw [cut] at selected
  rw [page, resolved, ← matched_length same]
  exact Driver.pageMapped_performed selected (Driver.count_served table served compiled (few _ _))

private theorem hasAny_served (same : ∀ filter order order', (held filter order).length = (held filter order').length)
    (state : σ) :
    ((query.hasAny installed driver).perform state).1 = .ok (!(query.matched held table filter).isEmpty) := by
  have alone : query.hasAny installed driver = (fun number => decide (number > 0)) <$> query.count installed driver :=
    (map_eq_pure_bind _ _).symm
  rw [alone, Exchange.perform_map, count_served served resolved compiled few same state]
  exact congrArg Except.ok (some_exist (counted_fits (matched_few few)))

private theorem page_described (same : ∀ filter order order', (held filter order).length = (held filter order').length)
    (request : PageRequest) (state : σ) :
    ReadsAs query.entity.read (request.cut (query.matched held table filter))
      (((query.page installed driver request).perform state).1.map Page.items) ∧
    ∀ page, ((query.page installed driver request).perform state).1 = .ok page →
      request.Describes (query.matched held table filter).length page := by
  have reads := readsAs_mapM query.entity.read (request.cut (query.matched held table filter))
  rw [page_served served resolved compiled few same request state]
  cases items : ((request.cut (query.matched held table filter)).mapM query.entity.read).mapError QueryError.read with
  | error failure =>
    rw [items] at reads
    exact ⟨reads, by simp [Except.map]⟩
  | ok items' =>
    rw [items] at reads
    refine ⟨reads, ?_⟩
    rintro page ⟨⟩
    exact request.describes_cut (matched_few few) (List.Forall₂.length_eq reads).symm

/-- Whatever its limit and its offset are, a query answers as the list of its rows does. -/
theorem answers_served (same : ∀ filter order order', (held filter order).length = (held filter order').length) (state : σ) :
    query.Answers installed driver state (query.matched held table filter) query.skipped query.most := by
  have first := first_served served resolved compiled few state
  have reads : ReadsAs query.entity.read (bounded query.skipped query.most (query.matched held table filter))
      ((query.fetch installed driver).perform state).1 := by
    rw [fetch_served served resolved compiled few state]
    exact readsAs_mapM _ _
  constructor
  case fetch => exact reads
  case first => exact first
  case head =>
    intro items all
    rw [all] at reads
    rw [first]
    exact first_fetched reads (head_bounded query.most_positive _)
  case get => exact get_served served resolved compiled few state
  case count => exact ⟨_, count_served served resolved compiled few same state, counted_fits (matched_few few)⟩
  case hasAny => exact hasAny_served served resolved compiled few same state
  case page => exact fun request => page_described served resolved compiled few same request state

end Terminals

def lastOffset (steps : List Step) : Nat := ((steps.filterMap Step.offset?).getLast?.map UInt64.toNat).getD 0

/-- The limit that was given last, if any; a limit of nothing still asks for one row. -/
def lastLimit (steps : List Step) : Option Nat := (steps.filterMap Step.limit?).getLast?.map fun limit => max 1 limit.toNat

private theorem built_compiled (entity : Entity α) (registry : Option Registry) {steps : List Step}
    (compiled : ∀ step ∈ steps, ∀ condition ∈ step.condition?, ∃ part, condition.fragment = .ok part) :
    ∃ filter, Table.condition (built entity registry steps).condition = .ok filter := by
  rw [built_fields]
  apply condition_compiled
  · intro condition member
    obtain ⟨step, inside, own⟩ := List.mem_filterMap.mp member
    cases step <;> cases own
    exact compiled _ inside condition rfl
  · intro condition member
    obtain ⟨step, inside, own⟩ := List.mem_filterMap.mp member
    cases step <;> cases own
    exact compiled _ inside condition rfl

/-- A database that holds at most as many rows as a signed word can count answers a query as a list of rows does,
through whatever steps the query was put together. Its rows may depend on the conditions, the values in them and
the order, their number only on the conditions and the values. -/
theorem steps_answer {driver : Driver σ} {held : List (Token Value) → List (Token Value) → List StoredRow} {table : Table}
    (entity : Entity α) (registry : Option Registry) (installed : Installation) (steps : List Step)
    (served : driver.Serves held) (resolved : (built entity registry steps).table installed = .ok table)
    (compiled : ∀ step ∈ steps, ∀ condition ∈ step.condition?, ∃ part, condition.fragment = .ok part)
    (few : ∀ filter order, (held filter order).length ≤ 0x7FFFFFFFFFFFFFFF)
    (same : ∀ filter order order', (held filter order).length = (held filter order').length) :
    ∃ filter, Table.condition (built entity registry steps).condition = .ok filter ∧
      ∀ state, Answers (built entity registry steps) installed driver state
        ((built entity registry steps).matched held table filter) (lastOffset steps) (lastLimit steps) := by
  obtain ⟨filter, filtered⟩ := built_compiled entity registry compiled
  refine ⟨filter, filtered, fun state => ?_⟩
  have answers := answers_served served resolved filtered few same state
  have skipped : (built entity registry steps).skipped = lastOffset steps := by rw [QuerySet.skipped, built_fields]; rfl
  have most : (built entity registry steps).most = lastLimit steps := by rw [QuerySet.most, built_fields]; rfl
  rwa [skipped, most] at answers

/-- The last limit and the last offset count: a limit of nothing asks for one row, and the one behind it, which cannot
be read, is only looked at to see whether there is one row. -/
theorem steps_answer_second :
    ∃ (query : QuerySet Int64) (driver : Driver Unit),
      query = built ⟨"T", fun row => row.required "id" .long⟩
        (some [⟨"t", "T", [⟨"id", .integer, true, none, 1, true⟩]⟩])
        [.limit 2, .filter (.compare .gt "id" (.bool false)), .offset 7, .orderBy "-id", .offset 1, .exclude (.isNull "id"),
          .limit 0] ∧
      driver = Driver.serving (fun _ _ => [[.integer 1], [.integer 2], [.null]]) ∧
      ((query.first none driver).perform ()).1 = .ok (some 2) ∧
      ((query.get none driver).perform ()).1 = .error (.read (.nullViolation "id")) ∧
      ((query.hasAny none driver).perform ()).1 = .ok true := by
  refine ⟨_, _, rfl, rfl, ?_⟩
  obtain ⟨filter, _, answers⟩ := steps_answer ⟨"T", fun row => row.required "id" .long⟩
    (some [⟨"t", "T", [⟨"id", .integer, true, none, 1, true⟩]⟩]) none
    [.limit 2, .filter (.compare .gt "id" (.bool false)), .offset 7, .orderBy "-id", .offset 1, .exclude (.isNull "id"),
      .limit 0] (Driver.serving_serves fun _ _ => [[.integer 1], [.integer 2], [.null]]) rfl
    (by simp [Step.condition?, Condition.fragment]) (fun _ _ => by decide) (fun _ _ _ => rfl)
  exact ⟨(answers ()).first, (answers ()).get, (answers ()).hasAny⟩

end QuerySet

end Relmap
