import Relmap.Proofs.SessionCalls

/-! The calls of one page. The rows are asked for first; only if they came and could all be read, and a total is
wanted, they are counted under the very condition that selected them. -/

namespace Relmap

variable {σ α : Type}

def Driver.reply (driver : Driver σ) (statement : Statement) (state : σ) : Except DriverError (List StoredRow) × σ :=
  (driver.query statement.sql statement.arguments.length (bindings statement.arguments)).run state

/-- The number that the reply to a count stands for. No row, no integer and a negative number are all 0. -/
def readTotal (rows : List StoredRow) : UInt64 := UInt64.ofNat ((rows.head?.bind (·.long? 0)).getD 0).toInt.toNat

/-- How the fetching of a page ends, with the calls that it made and the state after them. -/
inductive PageRun (driver : Driver σ) (table : Table) (mapper : Mapper α) (request : PageRequest) (rows number : Statement)
    (state : σ) : Except QueryError (Page α) → List Call → σ → Prop where
  | refused {after : σ} {error : DriverError} (failed : driver.reply rows state = (.error error, after)) :
    PageRun driver table mapper request rows number state (.error (.database error)) [rows.call] after
  | unreadable {after : σ} {stored : List StoredRow} {error : ReadError} (answered : driver.reply rows state = (.ok stored, after))
    (failed : (stored.map (·.decode table)).mapM mapper = .error error) :
    PageRun driver table mapper request rows number state (.error (.read error)) [rows.call] after
  | uncounted {after : σ} {stored : List StoredRow} {items : List α} (answered : driver.reply rows state = (.ok stored, after))
    (mapped : (stored.map (·.decode table)).mapM mapper = .ok items) (unwanted : request.includeTotal = false) {page : Page α}
    (made : Page.of items request.window none = .ok page) :
    PageRun driver table mapper request rows number state (.ok page) [rows.call] after
  | uncountable {between after : σ} {stored : List StoredRow} {items : List α} {error : DriverError}
    (answered : driver.reply rows state = (.ok stored, between)) (mapped : (stored.map (·.decode table)).mapM mapper = .ok items)
    (wanted : request.includeTotal = true) (failed : driver.reply number between = (.error error, after)) :
    PageRun driver table mapper request rows number state (.error (.database error)) [rows.call, number.call] after
  | counted {between after : σ} {stored found : List StoredRow} {items : List α}
    (answered : driver.reply rows state = (.ok stored, between)) (mapped : (stored.map (·.decode table)).mapM mapper = .ok items)
    (wanted : request.includeTotal = true) (total : driver.reply number between = (.ok found, after)) {page : Page α}
    (made : Page.of items request.window (some (readTotal found)) = .ok page) :
    PageRun driver table mapper request rows number state (.ok page) [rows.call, number.call] after

namespace Driver

variable (driver : Driver σ) (table : Table) (selection : Selection) {rows : Statement} {clause : WhereClause}

private theorem reply_recording (statement : Statement) (recorded : Recorded σ) :
    driver.recording.reply statement recorded =
      ((driver.reply statement recorded.state).1, ⟨(driver.reply statement recorded.state).2, recorded.calls ++ [statement.call]⟩) :=
  rfl

private theorem rows_perform (statement : Statement) (state : σ) :
    (driver.rows statement).perform state =
      ((driver.reply statement state).1.mapError .database, (driver.reply statement state).2) := rfl

private theorem selectRows_perform {window : Option Window}
    (stated : table.select selection.condition selection.order window = .ok rows) (state : σ) :
    (driver.selectRows table selection window).perform state =
      (((driver.reply rows state).1.mapError .database).map fun stored => stored.map (·.decode table),
        (driver.reply rows state).2) := by
  rw [selectRows, stated]
  exact Exchange.perform_map _ (driver.rows rows) state

private theorem count_perform {condition : Option Condition} (compiled : WhereClause.ofCondition condition = .ok clause)
    (state : σ) :
    (driver.count table condition).perform state =
      (((driver.reply (clause.count table.name) state).1.mapError .database).map readTotal,
        (driver.reply (clause.count table.name) state).2) := by
  have number : driver.count table condition = readTotal <$> driver.rows (clause.count table.name) := by
    rw [count, compiled, map_eq_pure_bind]
    change (driver.executeScalar (clause.count table.name) >>= fun number => pure (UInt64.ofNat number.toInt.toNat)) = _
    rw [executeScalar, bind_assoc]
    rfl
  rw [number, Exchange.perform_map, rows_perform]

private theorem selectMapped_perform (mapper : Mapper α) {window : Option Window}
    (stated : table.select selection.condition selection.order window = .ok rows) (state : σ) :
    (driver.selectMapped table mapper selection window).perform state =
      match driver.reply rows state with
      | (.error error, after) => (.error (.database error), after)
      | (.ok stored, after) => (((stored.map (·.decode table)).mapM mapper).mapError .read, after) := by
  rw [selectMapped, Exchange.perform_bind, driver.selectRows_perform table selection stated]
  cases driver.reply rows state with
  | mk reply after =>
    cases reply with
    | error error => rfl
    | ok stored =>
      change (Session.lift .read ((stored.map (·.decode table)).mapM mapper)).perform after =
        (((stored.map (·.decode table)).mapM mapper).mapError .read, after)
      cases (stored.map (·.decode table)).mapM mapper <;> rfl

/-- The replies alone decide how the fetching of a page ends. -/
theorem pageMapped_perform (mapper : Mapper α) (request : PageRequest)
    (stated : table.select selection.condition selection.order (some request.window) = .ok rows)
    (compiled : WhereClause.ofCondition selection.condition = .ok clause) (state : σ) :
    (driver.pageMapped table mapper selection request).perform state =
      match driver.reply rows state with
      | (.error error, after) => (.error (.database error), after)
      | (.ok stored, between) =>
        match (stored.map (·.decode table)).mapM mapper with
        | .error error => (.error (.read error), between)
        | .ok items =>
          if request.includeTotal then
            match driver.reply (clause.count table.name) between with
            | (.error error, after) => (.error (.database error), after)
            | (.ok found, after) => (.ok (request.shows items (some (readTotal found))), after)
          else (.ok (request.shows items none), between) := by
  rw [pageMapped_shows, Exchange.perform_bind, driver.selectMapped_perform table selection mapper stated]
  cases driver.reply rows state with
  | mk reply between =>
    cases reply with
    | error error => rfl
    | ok stored =>
      simp only
      cases (stored.map (·.decode table)).mapM mapper with
      | error error => rfl
      | ok items =>
        simp only [Except.mapError]
        cases request.includeTotal with
        | false => rfl
        | true =>
          rw [if_pos rfl, if_pos rfl, Exchange.perform_bind, Exchange.perform_map, driver.count_perform table compiled]
          cases driver.reply (clause.count table.name) between with
          | mk reply after => cases reply <;> rfl

/-- The run of a page fits its calls: what is recorded of it is what the replies alone decide. -/
theorem pageMapped_runs (mapper : Mapper α) (request : PageRequest)
    (stated : table.select selection.condition selection.order (some request.window) = .ok rows)
    (compiled : WhereClause.ofCondition selection.condition = .ok clause) (state : σ) :
    ∃ result calls after, PageRun driver table mapper request rows (clause.count table.name) state result calls after ∧
      (driver.pageMapped table mapper selection request).perform state = (result, after) ∧
      ∀ earlier, (driver.recording.pageMapped table mapper selection request).perform ⟨state, earlier⟩ =
        (result, ⟨after, earlier ++ calls⟩) := by
  simp only [pageMapped_perform _ table selection mapper request stated compiled, reply_recording]
  cases replied : driver.reply rows state with
  | mk reply between =>
    cases reply with
    | error error => exact ⟨_, _, _, .refused replied, rfl, fun _ => rfl⟩
    | ok stored =>
      cases mapped : (stored.map (·.decode table)).mapM mapper with
      | error error =>
        refine ⟨_, _, _, .unreadable replied mapped, ?_, fun earlier => ?_⟩ <;> simp only [mapped]
      | ok items =>
        cases wanted : request.includeTotal with
        | false =>
          refine ⟨_, _, _, .uncounted replied mapped wanted (request.page_shows items none), ?_, fun earlier => ?_⟩ <;>
            simp only [mapped, Bool.false_eq_true, if_false]
        | true =>
          cases numbered : driver.reply (clause.count table.name) between with
          | mk reply after =>
            cases reply with
            | error error =>
              refine ⟨_, _, _, .uncountable replied mapped wanted numbered, ?_, fun earlier => ?_⟩ <;>
                simp [mapped, numbered]
            | ok found =>
              refine ⟨_, _, _, .counted replied mapped wanted numbered (request.page_shows items _), ?_, fun earlier => ?_⟩ <;>
                simp [mapped, numbered]

end Driver

private theorem text_append (first second : Fragment) : (first ++ second).text = first.text ++ second.text := by
  simp [Fragment.text, String.join_append]

/-- The part of a statement that selects rows, with the word before it; nothing where all rows are meant. -/
def WhereClause.filter (clause : WhereClause) : String := (clause.sql.map (" WHERE " ++ ·)).getD ""

private theorem WhereClause.filter_compiled {condition : Option Condition} {clause : WhereClause} {filter : Fragment}
    (compiled : ofCondition condition = .ok clause) (given : Table.condition condition = .ok filter) :
    filter.text = clause.filter := by
  rcases Table.condition_ok.mp given with ⟨rfl, rfl⟩ | ⟨condition, part, rfl, own, rfl⟩
  · cases compiled
    rfl
  · rw [ofCondition, own] at compiled
    cases compiled
    exact text_append [.keyword .whereRows] part

/-- What a page asks: the texts share the table's name and all that selects rows, and the values of the rows'
statement are those of the count with the limit and the offset behind them. -/
structure PageRequest.Asks (request : PageRequest) (table : Table) (order : List Order) (filter : String)
    (rows number : Statement) : Prop where
  select : rows.sql = Fragment.text table.projection ++ " FROM " ++ quoteName table.name ++ filter ++
    Fragment.text (Table.ordering order ++ request.window.fragment)
  count : number.sql = "SELECT COUNT(*) FROM " ++ quoteName table.name ++ filter
  values : rows.arguments = number.arguments ++ request.window.values

private theorem PageRequest.asks_compiled (request : PageRequest) (table : Table) (selection : Selection)
    {clause : WhereClause}
    (compiled : WhereClause.ofCondition selection.condition = .ok clause) :
    ∃ rows, table.select selection.condition selection.order (some request.window) = .ok rows ∧
      request.Asks table selection.order clause.filter rows (clause.count table.name) := by
  have counts : (Inquiry.number table selection.condition).statement = .ok (clause.count table.name) := by
    rw [Inquiry.statement, compiled]
    rfl
  obtain ⟨count, countCompiled, number⟩ := Inquiry.statement_ok.mp counts
  obtain ⟨filter, given, rfl⟩ := Inquiry.fragment_ok.mp countCompiled
  obtain ⟨select, selectCompiled⟩ : ∃ fragment, (Inquiry.rows table selection (some request.window)).fragment = .ok fragment :=
    ⟨_, Inquiry.fragment_ok.mpr ⟨filter, given, rfl⟩⟩
  obtain ⟨same, sameGiven, parts⟩ := Inquiry.fragment_ok.mp selectCompiled
  obtain rfl : same = filter := Except.ok.inj (sameGiven.symm.trans given)
  have own := WhereClause.filter_compiled compiled given
  refine ⟨select.statement, Inquiry.statement_ok.mpr ⟨select, selectCompiled, rfl⟩, ?_⟩
  rw [number]
  constructor
  case select =>
    have head : (Inquiry.rows table selection (some request.window)).head.text =
        Fragment.text table.projection ++ " FROM " ++ quoteName table.name :=
      (text_append table.projection _).trans (String.append_assoc ..).symm
    rw [parts, Fragment.statement, text_append, text_append, own, head]
    rfl
  case count =>
    have head : (Inquiry.number table selection.condition).head.text = "SELECT COUNT(*) FROM " ++ quoteName table.name :=
      text_append [.keyword .selectCount, .keyword .fromTable] [.name table.name]
    rw [Fragment.statement, text_append, text_append, own, head]
    exact String.append_empty
  case values =>
    rw [Fragment.statement, Fragment.statement, (Inquiry.fragment_order selectCompiled).1,
      (Inquiry.fragment_order countCompiled).1]
    rfl

namespace Operation

/-- A page first asks for its rows. If they came and all of them could be read, and only then, a wanted total is
asked for too, under the same condition with the same values. There is no other call, and the first failure is the
result. -/
theorem page_calls (driver : Driver σ) (table : Table) (mapper : Mapper α) (selection : Selection) (request : PageRequest)
    {clause : WhereClause} (compiled : WhereClause.ofCondition selection.condition = .ok clause) :
    ∃ rows, table.select selection.condition selection.order (some (.page request.page request.size)) = .ok rows ∧
      request.Asks table selection.order clause.filter rows (clause.count table.name) ∧
      ∀ state, ∃ result calls after,
        PageRun driver table mapper request rows (clause.count table.name) state result calls after ∧
        ((pageMapped table mapper selection request).run driver).perform state = (result, after) ∧
        (pageMapped table mapper selection request).calls driver state = calls := by
  obtain ⟨rows, stated, asks⟩ := request.asks_compiled table selection compiled
  refine ⟨rows, stated, asks, fun state => ?_⟩
  obtain ⟨result, calls, after, run, performed, recorded⟩ :=
    driver.pageMapped_runs table selection mapper request stated compiled state
  refine ⟨result, calls, after, run, performed, ?_⟩
  change ((driver.recording.pageMapped table mapper selection request).perform ⟨state, []⟩).2.calls = calls
  rw [recorded, List.nil_append]

/-- The count fails behind rows that could be read, so there is no page. -/
theorem page_calls_uncountable :
    WhereClause.ofCondition (some (.compare .eq "a?" (.int 7))) = .ok ⟨some "\"a?\" = ?", [.int 7]⟩ ∧
    ∃ rows after, PageRequest.Asks ⟨2, 1, true⟩ ⟨"t", "T", [⟨"id", .integer, false, none, 1, true⟩]⟩ [⟨"id", false⟩]
        " WHERE \"a?\" = ?" rows ⟨"SELECT COUNT(*) FROM \"t\" WHERE \"a?\" = ?", [.int 7]⟩ ∧
      PageRun Script.driver ⟨"t", "T", [⟨"id", .integer, false, none, 1, true⟩]⟩ (fun row => row.required "id" .long)
        ⟨2, 1, true⟩ rows ⟨"SELECT COUNT(*) FROM \"t\" WHERE \"a?\" = ?", [.int 7]⟩ ⟨[.rows [[.integer 5]], .fail "lost"], []⟩
        (.error (.database (Script.failure "lost")))
        [⟨.query, "SELECT \"id\" FROM \"t\" WHERE \"a?\" = ? ORDER BY \"id\" DESC LIMIT ? OFFSET ?", 3,
            [(0, .long 7), (1, .long 1), (2, .long 1)]⟩,
          ⟨.query, "SELECT COUNT(*) FROM \"t\" WHERE \"a?\" = ?", 1, [(0, .long 7)]⟩] after := by
  have compiled : WhereClause.ofCondition (some (.compare .eq "a?" (.int 7))) = .ok ⟨some "\"a?\" = ?", [.int 7]⟩ := by decide
  obtain ⟨rows, _, asks, runs⟩ := page_calls Script.driver ⟨"t", "T", [⟨"id", .integer, false, none, 1, true⟩]⟩
    (fun row => row.required "id" .long) ⟨some (.compare .eq "a?" (.int 7)), [⟨"id", false⟩]⟩ ⟨2, 1, true⟩ compiled
  obtain ⟨result, calls, after, run, performed, recorded⟩ := runs ⟨[.rows [[.integer 5]], .fail "lost"], []⟩
  refine ⟨compiled, rows, after, asks, ?_⟩
  cases performed
  cases recorded
  exact run

end Operation

end Relmap
