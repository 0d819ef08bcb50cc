import Relmap.Driver.Logging
import Relmap.Proofs.SessionCalls

/-! What the logging driver adds to a request. Bindings reach the statement as if nobody listened, and what is
reported of them is what a database holds in its slots. -/

namespace Relmap

variable {σ α : Type}

namespace Bindings

def extent (bindings : Bindings) : Nat := (bindings.map fun binding => binding.1 + 1).foldr max 0

/-- What was bound to a slot last. -/
def last? (bindings : Bindings) (index : Nat) : Option Value :=
  (bindings.filterMap fun binding => if binding.1 = index then some binding.2.value else none).getLast?

theorem extent_cons (binding : Nat × Bound) (bindings : Bindings) :
    extent (binding :: bindings) = max (binding.1 + 1) bindings.extent := rfl

theorem last?_cons (binding : Nat × Bound) (bindings : Bindings) (index : Nat) :
    last? (binding :: bindings) index =
      (bindings.last? index).or (if binding.1 = index then some binding.2.value else none) := by
  unfold last?
  by_cases same : binding.1 = index
  · simp only [List.filterMap_cons, if_pos same, List.getLast?_cons]
    cases List.getLast? _ <;> rfl
  · simp only [List.filterMap_cons, if_neg same, Option.or_none]

theorem assign_length (slots : List Value) (index : Nat) (value : Value) :
    (assign slots index value).length = max slots.length (index + 1) := by
  rw [assign, List.length_set, List.length_append, List.length_replicate]
  omega

/-- One binding fills its own slot; the slots that make room for it are as empty as if they were not there. -/
theorem assign_content (slots : List Value) (index : Nat) (value : Value) (other : Nat) :
    (assign slots index value)[other]?.getD .null = if index = other then value else slots[other]?.getD .null := by
  have room : index < (slots ++ List.replicate (index + 1 - slots.length) Value.null).length := by
    rw [List.length_append, List.length_replicate]
    omega
  rw [assign, List.getElem?_set]
  by_cases same : index = other
  · rw [if_pos same, if_pos same, if_pos (same ▸ room)]
    rfl
  · rw [if_neg same, if_neg same, List.getElem?_append]
    by_cases old : other < slots.length
    · rw [if_pos old]
    · rw [if_neg old, List.getElem?_eq_none (Nat.le_of_not_lt old), List.getElem?_replicate]
      split <;> rfl

/-- Bindings from some slots on: the last one counts, and a slot without any stays as it was. -/
theorem slots_assigned (bindings : Bindings) (start : List Value) :
    (bindings.foldl (fun slots binding => assign slots binding.1 binding.2.value) start).length =
        max start.length bindings.extent ∧
      ∀ index, (bindings.foldl (fun slots binding => assign slots binding.1 binding.2.value) start)[index]?.getD .null =
        (bindings.last? index).getD (start[index]?.getD .null) := by
  induction bindings generalizing start with
  | nil => exact ⟨(Nat.max_zero _).symm, fun _ => rfl⟩
  | cons binding bindings ih =>
    obtain ⟨length, content⟩ := ih (assign start binding.1 binding.2.value)
    rw [List.foldl_cons]
    constructor
    · rw [length, assign_length, extent_cons, Nat.max_assoc]
    · intro index
      rw [content, assign_content, last?_cons]
      cases last? bindings index with
      | some value => rfl
      | none => split <;> rfl

/-- There are as many slots as were asked for, or as many as the highest binding needs. A slot holds what was
bound to it last, and nothing where nothing was bound. -/
theorem slots_content (parameters : Nat) (bindings : Bindings) :
    bindings.slots parameters =
      (List.range (max parameters bindings.extent)).map fun index => (bindings.last? index).getD .null := by
  obtain ⟨length, content⟩ := bindings.slots_assigned (List.replicate parameters .null)
  change (bindings.slots parameters).length = _ at length
  rw [List.length_replicate] at length
  apply List.ext_getElem
  · rw [length, List.length_map, List.length_range]
  · intro index within _
    have held : (bindings.slots parameters)[index]?.getD .null = _ := content index
    rw [List.getElem?_eq_getElem within, Option.getD_some, List.getElem?_replicate] at held
    rw [held, List.getElem_map, List.getElem_range]
    split <;> rfl

example : Bindings.slots 1 [(2, .long 5), (0, .null), (2, .string "a")] = [.null, .null, .text "a"] := by decide

end Bindings

namespace Recorder

private theorem record_assign (values : List Value) (index : Nat) (value : Value) :
    record values index value = Bindings.assign values index value := by
  unfold record Bindings.assign
  by_cases old : index < values.length
  · rw [if_pos old, Nat.sub_eq_zero_of_le old, List.replicate_zero, List.append_nil]
  · have room : index + 1 - values.length = index - values.length + 1 := by omega
    rw [if_neg old, room, List.replicate_succ', ← List.append_assoc, List.set_append_right _ _ (by simp; omega)]
    simp [Nat.le_of_not_lt old]

/-- Whatever a statement does with its bindings, it does it the same through the recorder. -/
theorem capture_forwards {τ : Type} (forward : τ → Nat × Bound → τ) (statement : τ) (parameters : Nat) (bindings : Bindings) :
    capture forward statement parameters bindings = ⟨bindings.foldl forward statement, bindings.slots parameters⟩ := by
  unfold capture Bindings.slots
  generalize List.replicate parameters Value.null = values
  induction bindings generalizing statement values with
  | nil => rfl
  | cons binding bindings ih =>
    rw [List.foldl_cons, bind, record_assign, ih]
    rfl

end Recorder

/-- Through the logging driver a request has the answer and the effect that it has without, and adds one event. -/
def Reports (direct : StateM σ (Except DriverError α)) (logged : StateM (Logged σ) (Except DriverError α))
    (event : Except DriverError α → Event) : Prop :=
  ∀ before : Logged σ, logged.run before =
    let (result, inner) := direct.run before.inner
    (result, ⟨inner, before.events ++ [event result]⟩)

theorem Logged.report_reports (sql : String) (parameters : Nat) (bindings : Bindings)
    (request : Bindings → StateM σ (Except DriverError α)) (outcome : Except DriverError α → Outcome) :
    Reports (request bindings) (report sql parameters bindings request outcome) fun result =>
      ⟨sql, Value.renderList (bindings.slots parameters), outcome result⟩ := by
  intro before
  have forwarded : bindings.foldl (fun forwarded binding => forwarded ++ [binding]) [] = bindings := by
    simp [← List.flatMap_def]
  change report sql parameters bindings request outcome before = _
  rewrite [report, Recorder.capture_forwards, forwarded]
  rfl

namespace Driver

theorem query_reported (driver : Driver σ) (sql : String) (parameters : Nat) (bindings : Bindings) :
    Reports (driver.query sql parameters bindings) (driver.logging.query sql parameters bindings)
      fun result => ⟨sql, Value.renderList (bindings.slots parameters), .ofQuery result⟩ :=
  Logged.report_reports sql parameters bindings (driver.query sql parameters) .ofQuery

theorem statement_reported (driver : Driver σ) (sql : String) (parameters : Nat) (bindings : Bindings) :
    Reports (driver.statement sql parameters bindings) (driver.logging.statement sql parameters bindings)
      fun result => ⟨sql, Value.renderList (bindings.slots parameters), .ofStatement result⟩ :=
  Logged.report_reports sql parameters bindings (driver.statement sql parameters) .ofStatement

/-- Whatever is bound, in whatever order, a statement behind the recorder is bound as it is without, and what is
recorded is what a database holds in its slots: the last binding of a slot counts, and slots without any are
null. So a request through the logging driver reaches the inner driver as it is, has the answer that it has
without, and adds one event with these arguments. -/
theorem logging_reports (driver : Driver σ) (sql : String) (parameters : Nat) (bindings : Bindings) :
    (∀ {τ : Type} (forward : τ → Nat × Bound → τ) (statement : τ),
      Recorder.capture forward statement parameters bindings =
        ⟨bindings.foldl forward statement, bindings.slots parameters⟩) ∧
      bindings.slots parameters =
        (List.range (max parameters bindings.extent)).map (fun index => (bindings.last? index).getD .null) ∧
      Reports (driver.query sql parameters bindings) (driver.logging.query sql parameters bindings)
        (fun result => ⟨sql, Value.renderList (bindings.slots parameters), .ofQuery result⟩) ∧
      Reports (driver.statement sql parameters bindings) (driver.logging.statement sql parameters bindings)
        (fun result => ⟨sql, Value.renderList (bindings.slots parameters), .ofStatement result⟩) ∧
      ∀ before,
        ((driver.recording.logging.query sql parameters bindings).run before).2.inner.calls =
          before.inner.calls ++ [⟨.query, sql, parameters, bindings⟩] ∧
        ((driver.recording.logging.statement sql parameters bindings).run before).2.inner.calls =
          before.inner.calls ++ [⟨.statement, sql, parameters, bindings⟩] := by
  refine ⟨fun forward statement => Recorder.capture_forwards forward statement parameters bindings,
    bindings.slots_content parameters, driver.query_reported sql parameters bindings,
    driver.statement_reported sql parameters bindings, fun before => ⟨?_, ?_⟩⟩
  · rw [driver.recording.query_reported sql parameters bindings before]
    rfl
  · rw [driver.recording.statement_reported sql parameters bindings before]
    rfl

end Driver

end Relmap
