import GridStore.Address.Resolve
import GridStore.Grid.Clear
import GridStore.Grid.Sort

/-!
Sheets: a grid together with a cache of its metrics. Addresses are resolved through the cache, and
every attempt to change the grid empties it.
-/

set_option autoImplicit false

namespace GridStore

structure Sheet where
  grid : Grid
  cache : MetricCache := .empty

namespace Sheet

def measure (metric : Metric) : Action Sheet Nat := do
  let sheet ← get
  let (value, cache) := sheet.cache.measure sheet.grid metric
  set { sheet with cache }
  return value

def range (address : Address) : Action Sheet Span := fun sheet =>
  match address.resolve sheet.grid sheet.cache with
  | .ok span cache => .ok span { sheet with cache }
  | .error error cache => .error error { sheet with cache }

def invalidate : Action Sheet Unit := modify fun sheet => { sheet with cache := .empty }

def values (span : Span) : Action Sheet (List Row) := do
  Action.ofExcept .grid ((← get).grid.read span)

/-- Changes the grid, or fails and leaves it as it is. The cache is emptied in either case. -/
def change (update : Grid → Except GridError Grid) : Action Sheet Unit := do
  let sheet ← get
  invalidate
  match update sheet.grid with
  | .ok grid => modify fun sheet => { sheet with grid }
  | .error cause => throw (.grid cause)

def setValues (span : Span) (values : List Row) : Action Sheet Unit :=
  change fun grid => grid.write span values

def clear (addresses : List String) : Action Sheet Unit := change fun grid => grid.clear addresses

def sort (span : Span) (column : Nat) (ascending : Bool) : Action Sheet Unit :=
  change fun grid => grid.sort span column ascending

end Sheet

end GridStore
