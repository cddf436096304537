import GridStore.Cell
import GridStore.Error

/-!
Grids: named rectangles of cells that grow when written to.

The view of a grid is `cell?`, the cell at a position counted from one. Reading outside the
allocated rectangle fails, and writing enlarges it just enough. Main statements: what growing and
changing cells do to the view.
-/

set_option autoImplicit false

namespace GridStore

/-- All rows have the same number of cells, which is kept even when there is no row. -/
structure Grid where
  name : String
  columns : Nat
  rows : List Row
  rectangular : ∀ row ∈ rows, row.length = columns

namespace Grid

def blankRow (columns : Nat) : Row := List.replicate columns .empty

def padded (columns : Nat) (row : Row) : Row := row ++ blankRow (columns - row.length)

theorem length_blankRow (columns : Nat) : (blankRow columns).length = columns :=
  List.length_replicate

theorem length_padded {columns : Nat} {row : Row} (fits : row.length ≤ columns) :
    (padded columns row).length = columns := by
  rw [padded, List.length_append, length_blankRow]
  omega

def blank (name : String) (rows columns : Nat) : Grid where
  name := name
  columns := columns
  rows := List.replicate rows (blankRow columns)
  rectangular row member := by rw [List.eq_of_mem_replicate member, length_blankRow]

def widest (rows : List Row) : Nat := rows.foldr (fun row width => max row.length width) 0

theorem length_le_widest {rows : List Row} {row : Row} (member : row ∈ rows) :
    row.length ≤ widest rows := by
  induction rows with
  | nil => cases member
  | cons head rest induction =>
      rw [widest, List.foldr_cons]
      rcases List.mem_cons.1 member with rfl | deeper
      · exact Nat.le_max_left _ _
      · exact Nat.le_trans (induction deeper) (Nat.le_max_right _ _)

/-- The grid that just holds some rows; shorter ones end in blanks. -/
def ofRows (name : String) (rows : List Row) : Grid where
  name := name
  columns := widest rows
  rows := rows.map (padded (widest rows))
  rectangular row member := by
    obtain ⟨source, found, rfl⟩ := List.mem_map.1 member
    exact length_padded (length_le_widest found)

/-- The cell at a position counted from one. -/
def cell? (grid : Grid) : Nat → Nat → Option Cell
  | row + 1, column + 1 => grid.rows[row]?.bind fun cells => cells[column]?
  | _, _ => none

abbrev maxRows (grid : Grid) : Nat := grid.rows.length

abbrev maxColumns (grid : Grid) : Nat := grid.columns

/-- The position, counted from one, of the last element that passes a test; zero if none does. -/
def lastPosition {α : Type} (test : α → Bool) : List α → Nat
  | [] => 0
  | head :: rest =>
      match lastPosition test rest with
      | 0 => if test head then 1 else 0
      | position + 1 => position + 2

def isFilled (cell : Cell) : Bool := !cell.isBlank

def lastRow (grid : Grid) : Nat := lastPosition (·.any isFilled) grid.rows

def lastColumn (grid : Grid) : Nat :=
  grid.rows.foldr (fun row column => max (lastPosition isFilled row) column) 0

def mapCells (grid : Grid) (change : Nat → Nat → Cell → Cell) : Grid where
  name := grid.name
  columns := grid.columns
  rows := grid.rows.mapIdx fun row cells =>
    cells.mapIdx fun column cell => change (row + 1) (column + 1) cell
  rectangular row member := by
    obtain ⟨index, bound, rfl⟩ := List.mem_mapIdx.1 member
    rw [List.length_mapIdx]
    exact grid.rectangular _ (List.getElem_mem bound)

def grow (grid : Grid) (rows columns : Nat) : Grid :=
  let width := max grid.columns columns
  { name := grid.name
    columns := width
    rows := grid.rows.map (padded width) ++
      List.replicate (rows - grid.rows.length) (blankRow width)
    rectangular := by
      intro row member
      rcases List.mem_append.1 member with old | new
      · obtain ⟨source, found, rfl⟩ := List.mem_map.1 old
        refine length_padded ?_
        rw [grid.rectangular source found]
        exact Nat.le_max_left _ _
      · rw [List.eq_of_mem_replicate new, length_blankRow] }

def checkBounds (grid : Grid) (span : Span) : Except GridError Unit :=
  if span.isDegenerate then .error (.emptyBlock span)
  else if grid.maxRows < span.lastRow ∨ grid.maxColumns < span.lastColumn then
    .error (.outOfBounds span grid.name grid.maxRows grid.maxColumns)
  else .ok ()

/-- The cells of a block, row by row, as far as they exist. -/
def block (grid : Grid) (span : Span) : List Row :=
  ((grid.rows.drop (span.row - 1)).take span.rows).map fun row =>
    (row.drop (span.column - 1)).take span.columns

def read (grid : Grid) (span : Span) : Except GridError (List Row) := do
  grid.checkBounds span
  return grid.block span

def valueAt? (values : List Row) (row column : Nat) : Option Cell :=
  values[row]?.bind fun cells => cells[column]?

def hasShape (values : List Row) (span : Span) : Bool :=
  values.length == span.rows && values.all fun row => row.length == span.columns

def write (grid : Grid) (span : Span) (values : List Row) : Except GridError Grid :=
  if hasShape values span then
    .ok ((grid.grow span.lastRow span.lastColumn).mapCells fun row column held =>
      if span.covers row column then
        (valueAt? values (row - span.row) (column - span.column)).getD held
      else held)
  else .error (.wrongShape span)

theorem cell?_mapCells (grid : Grid) (change : Nat → Nat → Cell → Cell) (row column : Nat) :
    (grid.mapCells change).cell? row column = (grid.cell? row column).map (change row column) := by
  cases row with
  | zero => rfl
  | succ row =>
      cases column with
      | zero => rfl
      | succ column =>
          simp only [cell?, mapCells, List.getElem?_mapIdx]
          cases grid.rows[row]? <;> simp

theorem isSome_cell? (grid : Grid) (row column : Nat) :
    (grid.cell? row column).isSome ↔
      (1 ≤ row ∧ row ≤ grid.maxRows) ∧ 1 ≤ column ∧ column ≤ grid.maxColumns := by
  cases row with
  | zero => simp [cell?]
  | succ row =>
      cases column with
      | zero => simp [cell?]
      | succ column =>
          by_cases inside : row < grid.rows.length
          · have width := grid.rectangular _ (List.getElem_mem inside)
            simp only [cell?, maxRows, maxColumns, List.getElem?_eq_getElem inside,
              Option.bind_some]
            rw [isSome_getElem?, width]
            omega
          · simp only [cell?, maxRows, maxColumns, List.getElem?_eq_none (Nat.le_of_not_lt inside)]
            simp
            omega

theorem cell?_grow (grid : Grid) (rows columns row column : Nat) :
    (grid.grow rows columns).cell? row column =
      if (1 ≤ row ∧ row ≤ max grid.maxRows rows) ∧
          1 ≤ column ∧ column ≤ max grid.maxColumns columns then
        some ((grid.cell? row column).getD .empty)
      else none := by
  cases row with
  | zero => simp [cell?]
  | succ row =>
      cases column with
      | zero => simp [cell?]
      | succ column =>
          simp only [cell?, grow, maxRows, maxColumns]
          by_cases old : row < grid.rows.length
          · have width := grid.rectangular _ (List.getElem_mem old)
            rw [List.getElem?_append_left (by simpa using old), List.getElem?_map,
              List.getElem?_eq_getElem old]
            simp only [Option.map_some, Option.bind_some, padded, blankRow]
            by_cases inside : column < grid.columns
            · rw [List.getElem?_append_left (by omega), List.getElem?_eq_getElem (by omega),
                if_pos (by omega)]
              rfl
            · rw [List.getElem?_append_right (by omega), List.getElem?_replicate,
                List.getElem?_eq_none (by omega : grid.rows[row].length ≤ column)]
              simp only [Option.getD_none, width]
              by_cases new : column < max grid.columns columns
              · rw [if_pos (by omega), if_pos (by omega)]
              · rw [if_neg (by omega), if_neg (by omega)]
          · rw [List.getElem?_append_right (by simpa using Nat.le_of_not_lt old), List.length_map,
              List.getElem?_replicate, List.getElem?_eq_none (Nat.le_of_not_lt old)]
            by_cases new : row < max grid.rows.length rows
            · rw [if_pos (by omega)]
              simp only [Option.bind_some, blankRow, List.getElem?_replicate, Option.bind_none,
                Option.getD_none]
              by_cases inside : column < max grid.columns columns
              · rw [if_pos inside, if_pos (by omega)]
              · rw [if_neg inside, if_neg (by omega)]
            · rw [if_neg (by omega), if_neg (by omega)]
              rfl

end Grid

end GridStore
