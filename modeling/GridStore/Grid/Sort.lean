import GridStore.Grid.Basic

/-!
Sorting the rows of a block by one of its columns.

Kinds of cells come in a fixed order, values within a kind in theirs. Blank keys go last in both
directions, and rows with equal keys keep their order.
-/

set_option autoImplicit false

namespace GridStore

/-- Numbers come first, then dates, text and truth values. -/
def Cell.kindRank : Cell → Nat
  | .number _ => 0
  | .date _ => 1
  | .string _ | .empty => 2
  | .boolean _ => 3

def Cell.sortOrder (left right : Cell) : Ordering :=
  (left.compare right).getD (Ord.compare left.kindRank right.kindRank)

/-- The order of two sort keys, with blanks behind everything else. -/
def Cell.keyOrder (ascending : Bool) (left right : Cell) : Ordering :=
  match left.isBlank, right.isBlank with
  | true, true => .eq
  | true, false => .gt
  | false, true => .lt
  | false, false =>
      if ascending then left.sortOrder right else (left.sortOrder right).swap

namespace Grid

def sortRows (key : Nat) (ascending : Bool) (rows : List Row) : List Row :=
  rows.mergeSort fun left right =>
    (Cell.keyOrder ascending (left.getD key .empty) (right.getD key .empty)).isLE

def sort (grid : Grid) (span : Span) (column : Nat) (ascending : Bool) : Except GridError Grid := do
  grid.checkBounds span
  if column < span.column ∨ span.lastColumn < column then
    throw (.sortColumnOutside column span)
  grid.write span (sortRows (column - span.column) ascending (← grid.read span))

end Grid

end GridStore
