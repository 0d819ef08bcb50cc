import Relmap.Condition.Compile
import Relmap.Statement.Order
import Relmap.Statement.Window
import Relmap.Table

/-! The two statements that are sent to a database: all columns of some rows of a table, and the
number of rows. Arguments come in the order of their slots: those of the condition, the limit, the
offset. -/

namespace Relmap

def Order.fragment (order : Order) : Fragment :=
  [.name order.column, .keyword (if order.ascending then .ascending else .descending)]

/-- The limit is always stated, the offset only when rows are skipped. -/
def Window.fragment (window : Window) : Fragment :=
  [.keyword .limit, .slot (.int (saturatingSigned window.limit))] ++
    if window.offset > 0 then [.keyword .offset, .slot (.int (saturatingSigned window.offset))] else []

namespace Table

def projection (table : Table) : Fragment :=
  .keyword .select :: Fragment.separated .comma (table.columnNames.map fun name => [.name name])

def condition (condition : Option Condition) : Except ConditionError Fragment :=
  match condition with
  | none => .ok []
  | some condition => return .keyword .whereRows :: (← condition.fragment)

def ordering (order : List Order) : Fragment :=
  if order.isEmpty then [] else .keyword .orderBy :: Fragment.separated .listComma (order.map Order.fragment)

def selection (table : Table) (criteria : Option Condition) (order : List Order) (window : Option Window) :
    Except ConditionError Fragment := do
  let filter ← condition criteria
  return table.projection ++ [.keyword .fromTable, .name table.name] ++ filter ++ ordering order ++
    (window.map Window.fragment).getD []

def select (table : Table) (criteria : Option Condition) (order : List Order) (window : Option Window) :
    Except ConditionError Statement :=
  return (← table.selection criteria order window).statement

end Table

/-- A blank condition filters nothing, but its arguments are kept. -/
def WhereClause.count (clause : WhereClause) (table : String) : Statement :=
  let head := Fragment.text [.keyword .selectCount, .keyword .fromTable, .name table]
  match clause.sql with
  | some sql =>
    ⟨if Text.allBlank sql then head else head ++ Keyword.whereRows.text ++ sql, clause.arguments⟩
  | none => ⟨head, clause.arguments⟩

end Relmap
