import GridStore.Grid.Clear
import GridStore.Grid.Metric

/-!
What grid operations do to single cells: writing, blanking and reading a block, and what the last
row with content means for the cells around it.
-/

set_option autoImplicit false

namespace GridStore

namespace Span

theorem covers_iff {span : Span} {row column : Nat} :
    span.covers row column = true ↔
      (span.row ≤ row ∧ row < span.row + span.rows) ∧
        span.column ≤ column ∧ column < span.column + span.columns := by
  simp only [covers, Bool.and_eq_true, decide_eq_true_eq]
  constructor
  · rintro ⟨⟨⟨top, bottom⟩, left⟩, right⟩
    exact ⟨⟨top, bottom⟩, left, right⟩
  · rintro ⟨⟨top, bottom⟩, left, right⟩
    exact ⟨⟨⟨top, bottom⟩, left⟩, right⟩

end Span

namespace Grid

section LastPosition

variable {α : Type} {test : α → Bool} {list : List α}

theorem last_position_le_length : lastPosition test list ≤ list.length := by
  induction list with
  | nil => exact Nat.le_refl 0
  | cons head rest induction =>
      rw [lastPosition, List.length_cons]
      split
      · split <;> omega
      · omega

theorem fails_behind_last_position {index : Nat} {element : α}
    (behind : lastPosition test list ≤ index) (found : list[index]? = some element) :
    test element = false := by
  induction list generalizing index with
  | nil => cases found
  | cons head rest induction =>
      rw [lastPosition] at behind
      cases index with
      | zero =>
          obtain rfl : head = element := by simpa using found
          cases deeper : lastPosition test rest with
          | zero =>
              rw [deeper] at behind
              by_cases passes : test head = true
              · simp [passes] at behind
              · exact Bool.eq_false_iff.2 passes
          | succ position =>
              rw [deeper] at behind
              exact absurd behind (by simp)
      | succ index =>
          rw [List.getElem?_cons_succ] at found
          refine induction ?_ found
          cases deeper : lastPosition test rest with
          | zero => exact Nat.zero_le index
          | succ position =>
              rw [deeper] at behind
              exact Nat.le_of_succ_le_succ behind

theorem passes_at_last_position (positive : 0 < lastPosition test list) :
    ∃ element, list[lastPosition test list - 1]? = some element ∧ test element = true := by
  induction list with
  | nil => cases positive
  | cons head rest induction =>
      rw [lastPosition] at positive ⊢
      cases deeper : lastPosition test rest with
      | zero =>
          rw [deeper] at positive
          by_cases passes : test head = true
          · exact ⟨head, by simp [passes], passes⟩
          · simp [passes] at positive
      | succ position =>
          have found := induction (by rw [deeper]; exact Nat.succ_pos position)
          rw [deeper] at found
          simpa using found

end LastPosition

/-- The row below which every cell is blank, and which has content itself unless it is zero. -/
def IsLastFilledRow (grid : Grid) (last : Nat) : Prop :=
  (∀ row column cell, last < row → grid.cell? row column = some cell → cell.isBlank = true) ∧
    (0 < last → ∃ column cell, grid.cell? last column = some cell ∧ cell.isBlank = false)

variable {grid : Grid}

theorem row_of_cell {row column : Nat} {cell : Cell} (held : grid.cell? row column = some cell) :
    ∃ cells, grid.rows[row - 1]? = some cells ∧ cells[column - 1]? = some cell ∧ 1 ≤ row ∧
      1 ≤ column := by
  cases row with
  | zero => cases held
  | succ row =>
      cases column with
      | zero => cases held
      | succ column =>
          obtain ⟨cells, found, inside⟩ := Option.bind_eq_some_iff.1 held
          exact ⟨cells, found, inside, Nat.succ_pos row, Nat.succ_pos column⟩

theorem last_row_le_max_rows : grid.lastRow ≤ grid.maxRows := last_position_le_length

theorem last_row_is_last_filled : grid.IsLastFilledRow grid.lastRow := by
  constructor
  · intro row column cell below held
    obtain ⟨cells, found, inside, -⟩ := row_of_cell held
    have blank := fails_behind_last_position (Nat.le_sub_one_of_lt below) found
    have unfilled := List.any_eq_false.1 blank cell (List.mem_of_getElem? inside)
    simpa [isFilled] using unfilled
  · intro positive
    obtain ⟨cells, found, filled⟩ := passes_at_last_position positive
    obtain ⟨cell, member, content⟩ := List.any_eq_true.1 filled
    obtain ⟨column, inside⟩ := List.getElem?_of_mem member
    refine ⟨column + 1, cell, ?_, by simpa [isFilled] using content⟩
    have last : grid.lastRow = lastPosition (·.any isFilled) grid.rows := rfl
    obtain ⟨before, same⟩ := Nat.exists_eq_succ_of_ne_zero (Nat.ne_of_gt positive)
    rw [same, cell?]
    rw [← last, same, Nat.succ_sub_one] at found
    rw [found]
    exact inside

theorem value_at_shaped {values : List Row} {span : Span} (shaped : hasShape values span = true)
    {row column : Nat} (covered : span.covers row column = true) :
    ∃ cell, valueAt? values (row - span.row) (column - span.column) = some cell := by
  obtain ⟨⟨top, bottom⟩, left, right⟩ := Span.covers_iff.1 covered
  simp only [hasShape, Bool.and_eq_true, beq_iff_eq, List.all_eq_true] at shaped
  obtain ⟨height, width⟩ := shaped
  have rowInside : row - span.row < values.length := by omega
  have rowWidth := width _ (List.getElem_mem rowInside)
  have columnInside : column - span.column < values[row - span.row].length := by omega
  refine ⟨values[row - span.row][column - span.column], ?_⟩
  rw [valueAt?, List.getElem?_eq_getElem rowInside]
  exact List.getElem?_eq_getElem columnInside

/-- What writing a block of values leaves in every cell of the grid. -/
structure Written (before after : Grid) (span : Span) (values : List Row) : Prop where
  shaped : hasShape values span = true
  name : after.name = before.name
  maxRows : after.maxRows = max before.maxRows span.lastRow
  maxColumns : after.maxColumns = max before.maxColumns span.lastColumn
  inside : ∀ row column, span.covers row column = true →
    after.cell? row column = valueAt? values (row - span.row) (column - span.column)
  kept : ∀ row column cell, span.covers row column = false → before.cell? row column = some cell →
    after.cell? row column = some cell
  fresh : ∀ row column cell, span.covers row column = false → before.cell? row column = none →
    after.cell? row column = some cell → cell = .empty

theorem write_shaped (grid : Grid) {span : Span} {values : List Row}
    (shaped : hasShape values span = true) : ∃ after, grid.write span values = .ok after :=
  ⟨_, if_pos shaped⟩

theorem written_of_write {after : Grid} {span : Span} {values : List Row}
    (corner : 1 ≤ span.row ∧ 1 ≤ span.column) (wrote : grid.write span values = .ok after) :
    Written grid after span values := by
  rw [write] at wrote
  split at wrote
  · rename_i shaped
    obtain rfl := Except.ok.inj wrote
    refine ⟨shaped, rfl, ?_, rfl, ?_, ?_, ?_⟩
    · simp only [mapCells, grow, maxRows, List.length_mapIdx, List.length_append, List.length_map,
        List.length_replicate]
      omega
    · intro row column covered
      obtain ⟨cell, value⟩ := value_at_shaped shaped covered
      obtain ⟨⟨top, bottom⟩, left, right⟩ := Span.covers_iff.1 covered
      have allocated : (1 ≤ row ∧ row ≤ max grid.maxRows span.lastRow) ∧
          1 ≤ column ∧ column ≤ max grid.maxColumns span.lastColumn := by
        rw [Span.lastRow, Span.lastColumn]
        omega
      rw [cell?_mapCells, cell?_grow, if_pos allocated, Option.map_some, if_pos covered, value]
      rfl
    · intro row column cell uncovered held
      have allocated := (isSome_cell? grid row column).1 (by rw [held]; rfl)
      rw [cell?_mapCells, cell?_grow, if_pos (by omega), held]
      simp [uncovered]
    · intro row column cell uncovered missing held
      rw [cell?_mapCells, cell?_grow, missing] at held
      obtain ⟨blank, grown, changed⟩ := Option.map_eq_some_iff.1 held
      rw [if_neg (by simp [uncovered])] at changed
      split at grown
      · rw [← changed]
        exact (Option.some.inj grown).symm
      · cases grown
  · cases wrote

theorem cell_of_blank_blocks {spans : List Span} {row column : Nat} :
    (grid.blankBlocks spans).cell? row column =
      (grid.cell? row column).map fun held =>
        if spans.any fun span => span.covers row column then .empty else held :=
  cell?_mapCells grid _ row column

theorem check_bounds_ok_iff {span : Span} :
    grid.checkBounds span = .ok () ↔
      span.isDegenerate = false ∧ span.lastRow ≤ grid.maxRows ∧
        span.lastColumn ≤ grid.maxColumns := by
  rw [checkBounds]
  split
  · rename_i degenerate
    simp [degenerate]
  · rename_i proper
    split
    · rename_i outside
      constructor
      · intro failed
        cases failed
      · intro inside
        omega
    · rename_i inside
      simp only [Bool.not_eq_true] at proper
      simp only [proper, true_and, true_iff]
      omega

theorem inside_of_check {span : Span} (inside : grid.checkBounds span = .ok ()) :
    (1 ≤ span.row ∧ 1 ≤ span.column ∧ 1 ≤ span.rows ∧ 1 ≤ span.columns) ∧
      span.row + span.rows - 1 ≤ grid.rows.length ∧
        span.column + span.columns - 1 ≤ grid.columns := by
  obtain ⟨proper, bottom, right⟩ := check_bounds_ok_iff.1 inside
  simp only [Span.isDegenerate, Bool.or_eq_false_iff, beq_eq_false_iff_ne] at proper
  exact ⟨by omega, bottom, right⟩

theorem read_ok_iff {span : Span} {values : List Row} :
    grid.read span = .ok values ↔ grid.checkBounds span = .ok () ∧ values = grid.block span := by
  rw [read]
  cases checked : grid.checkBounds span with
  | ok nothing => simp [pure, Except.pure, bind, Except.bind, eq_comm]
  | error cause => simp [bind, Except.bind]

def rowFrom (grid : Grid) (column columns row : Nat) : Row :=
  (List.range columns).map fun offset => (grid.cell? row (column + offset)).getD .empty

theorem row_from_of_cells {cells : Row} {row column columns : Nat} (columnPositive : 1 ≤ column)
    (found : grid.rows[row]? = some cells) (fits : column + columns - 1 ≤ grid.columns) :
    (cells.drop (column - 1)).take columns = grid.rowFrom column columns (row + 1) := by
  have width : cells.length = grid.columns := grid.rectangular cells (List.mem_of_getElem? found)
  have drops : ((cells.drop (column - 1)).take columns).length = columns := by
    rw [List.length_take, List.length_drop, width]
    omega
  apply List.ext_getElem?
  intro offset
  by_cases inside : offset < columns
  · obtain ⟨before, rfl⟩ := Nat.exists_eq_add_of_le' columnPositive
    have cell : before + offset < cells.length := by omega
    have shifted : before + 1 + offset = before + offset + 1 := by omega
    rw [List.getElem?_take_of_lt inside, List.getElem?_drop, Nat.add_sub_cancel, rowFrom,
      List.getElem?_map, List.getElem?_range inside, Option.map_some, shifted, cell?, found,
      Option.bind_some, List.getElem?_eq_getElem cell]
    rfl
  · have past : columns ≤ offset := Nat.le_of_not_lt inside
    rw [List.getElem?_eq_none (by omega), List.getElem?_eq_none (by simpa [rowFrom] using past)]

theorem block_eq_rows {span : Span} (inside : grid.checkBounds span = .ok ()) :
    grid.block span =
      (List.range' span.row span.rows).map (grid.rowFrom span.column span.columns) := by
  obtain ⟨⟨row, column, rows, columns⟩, bottom, right⟩ := inside_of_check inside
  apply List.ext_getElem?
  intro offset
  rw [block, List.getElem?_map, List.getElem?_map]
  by_cases below : offset < span.rows
  · have found : span.row - 1 + offset < grid.rows.length := by omega
    have position : span.row + offset = span.row - 1 + offset + 1 := by omega
    rw [List.getElem?_take_of_lt below, List.getElem?_drop, List.getElem?_eq_getElem found,
      List.getElem?_range' below, Nat.one_mul, position]
    simp only [Option.map_some]
    rw [row_from_of_cells column (List.getElem?_eq_getElem found) right]
  · have past : span.rows ≤ offset := Nat.le_of_not_lt below
    rw [List.getElem?_eq_none (by simp; omega), List.getElem?_eq_none (by simpa using past)]
    rfl

theorem block_row_iff {span : Span} (inside : grid.checkBounds span = .ok ()) {index : Nat}
    {row : Row} :
    (grid.block span)[index]? = some row ↔
      index < span.rows ∧ row = grid.rowFrom span.column span.columns (span.row + index) := by
  rw [block_eq_rows inside, List.getElem?_map]
  by_cases below : index < span.rows
  · rw [List.getElem?_range' below, Nat.one_mul]
    simp [below, eq_comm]
  · rw [List.getElem?_eq_none (by simpa using Nat.le_of_not_lt below)]
    simp [below]

theorem length_block {span : Span} (inside : grid.checkBounds span = .ok ()) :
    (grid.block span).length = span.rows := by
  rw [block_eq_rows inside, List.length_map, List.length_range']

theorem row_from_cell (column columns row : Nat) {index : Nat} (inside : index < columns) :
    (grid.rowFrom column columns row)[index]? =
      some ((grid.cell? row (column + index)).getD .empty) := by
  rw [rowFrom, List.getElem?_map, List.getElem?_range inside]
  rfl

theorem cell_of_readable {span : Span} (readable : grid.checkBounds span = .ok ())
    {offset index : Nat} (low : offset < span.rows) (inside : index < span.columns) :
    ∃ cell, grid.cell? (span.row + offset) (span.column + index) = some cell := by
  obtain ⟨⟨top, left, -, -⟩, bottom, right⟩ := inside_of_check readable
  have allocated : (1 ≤ span.row + offset ∧ span.row + offset ≤ grid.rows.length) ∧
      1 ≤ span.column + index ∧ span.column + index ≤ grid.columns := by omega
  exact Option.isSome_iff_exists.1 ((isSome_cell? grid _ _).2 allocated)

theorem block_cell {span : Span} (readable : grid.checkBounds span = .ok ()) {offset : Nat}
    {row : Row} (listed : (grid.block span)[offset]? = some row) (index : Nat) :
    (index < span.columns →
        some (row.getD index .empty) = grid.cell? (span.row + offset) (span.column + index)) ∧
      (span.columns ≤ index → row.getD index .empty = .empty) := by
  obtain ⟨low, rfl⟩ := (block_row_iff readable).1 listed
  rw [List.getD_eq_getElem?_getD]
  constructor
  · intro inside
    obtain ⟨cell, held⟩ := cell_of_readable readable low inside
    rw [row_from_cell _ _ _ inside, held]
    rfl
  · intro beyond
    rw [rowFrom, List.getElem?_eq_none (by simpa using beyond)]
    rfl

end Grid

end GridStore
