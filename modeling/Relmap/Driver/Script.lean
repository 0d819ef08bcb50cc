import Relmap.Driver

/-! A driver that plays back prepared replies and keeps a record of what it was asked. -/

namespace Relmap

inductive CallKind where
  | query
  | statement
  deriving DecidableEq

structure Call where
  kind : CallKind
  sql : String
  parameters : Nat
  bindings : Bindings
  deriving DecidableEq

inductive Reply where
  | rows (rows : List StoredRow)
  | affected (count : UInt64)
  | fail (reason : String)

structure Script where
  replies : List Reply
  calls : List Call := []

namespace Script

/-- A failure of the prepared kind names data as its cause. -/
def failure (reason : String) : DriverError :=
  ⟨"encountered unexpected or invalid data: " ++ reason⟩

/-- The call is recorded whether or not it succeeds. -/
def take (call : Call) : StateM Script (Option Reply) := do
  let script ← get
  set { replies := script.replies.drop 1, calls := script.calls ++ [call] : Script }
  return script.replies.head?

/-- Without a reply for it a query has no rows and a statement changes nothing. -/
def driver : Driver Script where
  query sql parameters bindings := do
    match ← take ⟨.query, sql, parameters, bindings⟩ with
    | some (.rows rows) => return .ok rows
    | some (.fail reason) => return .error (failure reason)
    | _ => return .ok []
  statement sql parameters bindings := do
    match ← take ⟨.statement, sql, parameters, bindings⟩ with
    | some (.affected count) => return .ok count
    | some (.fail reason) => return .error (failure reason)
    | _ => return .ok 0

end Script

end Relmap
