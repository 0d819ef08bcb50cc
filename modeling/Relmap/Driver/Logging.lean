import Relmap.Driver

/-! A driver around another one that reports each request once it is answered. It hands everything
on as it came, and records what is bound on its way to the statement. -/

namespace Relmap

inductive Outcome where
  | rows (count : Nat)
  | affected (count : UInt64)
  | queryFailed (error : DriverError)
  | statementFailed (error : DriverError)

structure Event where
  sql : String
  arguments : String
  outcome : Outcome

def Outcome.message : Outcome → String
  | .rows _ => "Query"
  | .affected _ => "Statement"
  | .queryFailed _ => "Query failed"
  | .statementFailed _ => "Statement failed"

def Outcome.detail : Outcome → String × String
  | .rows count => ("rows", toString count)
  | .affected count => ("affected", toString count.toNat)
  | .queryFailed error | .statementFailed error => ("error", error.message)

def Outcome.ofQuery : Except DriverError (List StoredRow) → Outcome
  | .ok found => .rows found.length
  | .error error => .queryFailed error

def Outcome.ofStatement : Except DriverError UInt64 → Outcome
  | .ok changed => .affected changed
  | .error error => .statementFailed error

def Event.fields (event : Event) : List (String × String) :=
  [("message", event.outcome.message), ("sql", event.sql), ("args", event.arguments), event.outcome.detail]

/-- Stands between whoever binds and a statement of any kind `τ` that is bound: each binding goes on to
the statement, and its value is kept here. -/
structure Recorder (τ : Type) where
  statement : τ
  values : List Value

namespace Recorder

variable {τ : Type}

/-- A value past the last one makes room for itself. Where a vector has no room for it the program panics; as with
`Bindings`, such indices are left out. -/
def record (values : List Value) (index : Nat) (value : Value) : List Value :=
  if index < values.length then values.set index value
  else values ++ List.replicate (index - values.length) .null ++ [value]

def bind (forward : τ → Nat × Bound → τ) (recorder : Recorder τ) (binding : Nat × Bound) : Recorder τ where
  statement := forward recorder.statement binding
  values := record recorder.values binding.1 binding.2.value

/-- Nothing is bound before the first binding. -/
def capture (forward : τ → Nat × Bound → τ) (statement : τ) (parameters : Nat) (bindings : Bindings) : Recorder τ :=
  bindings.foldl (bind forward) ⟨statement, List.replicate parameters .null⟩

end Recorder

structure Logged (σ : Type) where
  inner : σ
  events : List Event := []

namespace Logged

/-- The request goes to the inner driver with the bindings as they were forwarded, and is reported with
the values as they were kept. -/
def report {σ α : Type} (sql : String) (parameters : Nat) (bindings : Bindings)
    (request : Bindings → StateM σ (Except DriverError α)) (outcome : Except DriverError α → Outcome) :
    StateM (Logged σ) (Except DriverError α) := fun logged =>
  let recorder := Recorder.capture (fun forwarded binding => forwarded ++ [binding]) [] parameters bindings
  let (result, inner) := (request recorder.statement).run logged.inner
  let event := ⟨sql, Value.renderList recorder.values, outcome result⟩
  (result, ⟨inner, logged.events ++ [event]⟩)

end Logged

def Driver.logging {σ : Type} (driver : Driver σ) : Driver (Logged σ) where
  query sql parameters bindings :=
    Logged.report sql parameters bindings (driver.query sql parameters) .ofQuery
  statement sql parameters bindings :=
    Logged.report sql parameters bindings (driver.statement sql parameters) .ofStatement

end Relmap
