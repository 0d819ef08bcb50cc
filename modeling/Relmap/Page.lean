import Relmap.Statement.Window

/-! Results in pages of one size, numbered from 1. -/

namespace Relmap

structure PageRequest where
  page : Int64
  size : Int64
  /-- Whether all matching rows are counted as well. -/
  includeTotal : Bool

def PageRequest.window (request : PageRequest) : Window := .page request.page request.size

structure Page (α : Type) where
  items : List α
  page : UInt64
  size : UInt64
  total : Option UInt64
  hasNext : Bool

namespace Page

/-- There is no page without a number, and a caller may put together a window that has none. -/
def of {α : Type} (items : List α) (window : Window) (total : Option UInt64) : Except WordFault (Page α) := do
  let hasNext := window.hasNext (UInt64.ofNat items.length) total
  return { items, page := ← window.number, size := window.limit, total, hasNext }

def map {α β : Type} (f : α → β) (page : Page α) : Page β := { page with items := page.items.map f }

end Page

end Relmap
