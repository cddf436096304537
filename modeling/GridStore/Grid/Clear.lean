import GridStore.A1.Read
import GridStore.Grid.Basic

/-!
Clearing blocks given by their addresses, all of them or none.
-/

set_option autoImplicit false

namespace GridStore.Grid

def blockOfAddress (grid : Grid) (address : String) : Except GridError Span := do
  match Span.ofA1 address grid.maxRows grid.maxColumns with
  | .ok span =>
      grid.checkBounds span
      return span
  | .error _ => throw (.unreadableAddress address)

def blankBlocks (grid : Grid) (spans : List Span) : Grid :=
  grid.mapCells fun row column held =>
    if spans.any fun span => span.covers row column then .empty else held

/-- Blanks the blocks at the addresses. Nothing changes unless every address can be cleared. -/
def clear (grid : Grid) (addresses : List String) : Except GridError Grid := do
  return grid.blankBlocks (← addresses.mapM grid.blockOfAddress)

end GridStore.Grid
