import GridStore.Mapper
import GridStore.Sheet

/-!
Regions: the block of a sheet that holds the data of one entity.

A region keeps its top-left corner and its width, and reaches down to the bottom of the grid; it is
measured again before and after every change. Rows are appended below the last row of the sheet
with any content, wherever that is.
-/

set_option autoImplicit false

namespace GridStore

structure Region where
  sheet : Sheet
  span : Span

/-- How to sort a region: by a column counted from one within it, in which direction. -/
structure SortOptions where
  column : Option Nat := none
  ascending : Option Bool := none
deriving DecidableEq, Repr

namespace Region

def onSheet {α : Type} (action : Action Sheet α) : Action Region α := fun region =>
  match action region.sheet with
  | .ok value sheet => .ok value { region with sheet }
  | .error error sheet => .error error { region with sheet }

def addressToBottom (row column columns : Nat) : Address where
  row := .number (.ofNat row)
  column := .number (.ofNat column)
  rows := .text ("mr - " ++ toString (Size.previous row))
  columns := .number (.ofNat columns)

def remeasure : Action Region Unit := do
  let span := (← get).span
  onSheet Sheet.invalidate
  let measured ← onSheet (Sheet.range (addressToBottom span.row span.column span.columns))
  modify fun region => { region with span := measured }

def values : Action Region (List Row) := do
  onSheet (Sheet.values (← get).span)

def appendAddress (column rows columns : Nat) : Address where
  row := .text "lr + 1"
  column := .number (.ofNat column)
  rows := .number (.ofNat rows)
  columns := .number (.ofNat columns)

def append (rows : List Row) : Action Region Unit := do
  match rows with
  | [] => throw (.append .noRows)
  | first :: _ =>
      remeasure
      let span := (← get).span
      if span.columns < first.length then
        throw (.append (.tooWide span.columns first.length))
      if rows.any fun row => row.length != first.length then throw (.append .unevenRows)
      let target ← onSheet
        (Sheet.range (appendAddress span.column rows.length first.length))
      onSheet (Sheet.setValues target rows)
      remeasure

def sortColumn (span : Span) : Option Nat → Nat
  | some (column + 1) => Size.wrapped (column + span.column)
  | _ => span.column

/-- Sorts the rows of the region, in descending order unless told otherwise. -/
def sort (options : SortOptions) : Action Region Unit := do
  remeasure
  let span := (← get).span
  onSheet (Sheet.sort span (sortColumn span options.column) (options.ascending.getD false))
  remeasure

def rowAddress (span : Span) (row : Nat) : Address :=
  .ofNumbers (Size.wrapped (row + (span.row - 1))) span.column 1 span.columns

def clearRows (rows : List Nat) : Action Region Unit := do
  if rows.isEmpty then return
  remeasure
  let span := (← get).span
  let addresses ← rows.mapM fun row => do
    return (← onSheet (Sheet.range (rowAddress span row))).a1
  onSheet (Sheet.clear addresses)
  remeasure

def scan {σ : Type} (mapper : EntityMapper) (visit : EntityMapper.Visitor σ) (state : σ) :
    Action Region (List Entity × σ) := do
  return mapper.scan visit state (← values)

def entities (mapper : EntityMapper) : Action Region (List Entity) := do
  return (← scan mapper .idle ()).1

def appendEntities (mapper : EntityMapper) (entities : List Entity) : Action Region Unit := do
  if entities.isEmpty then return
  append (mapper.toRows entities)

def clearEntities (indexes : List Nat) : Action Region Unit :=
  clearRows (indexes.map fun index => Size.wrapped (index + 1))

end Region

end GridStore
