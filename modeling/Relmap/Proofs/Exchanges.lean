import Relmap.Driver

/-! Exchanges with a driver as values that come with the state after them. What a step comes to decides whether the next
one is taken. -/

namespace Relmap.Exchange

variable {ε σ α β : Type}

/-- What an exchange comes to in a state, and the state after it. -/
def perform (exchange : Exchange ε σ α) (state : σ) : Except ε α × σ := exchange.run.run state

@[simp] theorem perform_pure (value : α) (state : σ) : (pure value : Exchange ε σ α).perform state = (.ok value, state) := rfl

theorem perform_mk (answer : StateM σ (Except ε α)) (state : σ) : perform (ExceptT.mk answer) state = answer.run state := rfl

theorem perform_bind (exchange : Exchange ε σ α) (next : α → Exchange ε σ β) (state : σ) :
    (exchange >>= next).perform state =
      match exchange.perform state with
      | (.ok value, after) => (next value).perform after
      | (.error error, after) => (.error error, after) := by
  change ExceptT.bindCont next (exchange.perform state).1 (exchange.perform state).2 = _
  cases exchange.perform state with
  | mk result after => cases result <;> rfl

theorem perform_bind_iff {exchange : Exchange ε σ α} {next : α → Exchange ε σ β} {before after : σ} {value : β} :
    (exchange >>= next).perform before = (.ok value, after) ↔ ∃ first between,
      exchange.perform before = (.ok first, between) ∧ (next first).perform between = (.ok value, after) := by
  rw [perform_bind]
  cases exchange.perform before with
  | mk result between =>
    cases result with
    | error error => simp
    | ok first =>
      constructor
      · intro rest
        exact ⟨first, between, rfl, rest⟩
      · intro ⟨_, _, own, rest⟩
        cases own
        exact rest

theorem perform_bind_ok {exchange : Exchange ε σ α} {next : α → Exchange ε σ β} {state : σ} {value : α}
    (done : (exchange.perform state).1 = .ok value) :
    (exchange >>= next).perform state = (next value).perform (exchange.perform state).2 := by
  rw [perform_bind]
  cases performed : exchange.perform state with
  | mk result after =>
    rw [performed] at done
    cases done
    rfl

theorem of_bind_ok {exchange : Exchange ε σ α} {next : α → Exchange ε σ β} {state : σ} {value : β}
    (done : ((exchange >>= next).perform state).1 = .ok value) :
    ∃ first, (exchange.perform state).1 = .ok first ∧ ((next first).perform (exchange.perform state).2).1 = .ok value := by
  obtain ⟨first, between, own, rest⟩ := perform_bind_iff.mp (Prod.ext done rfl)
  rw [own]
  exact ⟨first, rfl, congrArg Prod.fst rest⟩

theorem perform_map (f : α → β) (exchange : Exchange ε σ α) (state : σ) :
    (f <$> exchange).perform state = ((exchange.perform state).1.map f, (exchange.perform state).2) := by
  rw [map_eq_pure_bind, perform_bind]
  cases exchange.perform state with
  | mk result after => cases result <;> rfl

end Relmap.Exchange
