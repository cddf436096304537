import GridStore.Proofs.Canonical.Cell
import GridStore.Proofs.Grid.Sort
import GridStore.Proofs.Region.Failure

/-!
Canonical grids, which hold blanks in place of empty texts. They measure the same as any grid with
that canonical form, and reading and changing a grid ends in the canonical form of what reading and
changing the original ends in.
-/

set_option autoImplicit false

namespace GridStore

namespace Grid

def canonical (grid : Grid) : Grid where
  name := grid.name
  columns := grid.columns
  rows := grid.rows.map Row.canonical
  rectangular row member := by
    obtain ⟨source, found, rfl⟩ := List.mem_map.1 member
    rw [Row.canonical, List.length_map]
    exact grid.rectangular source found

/-- Grids of one name and one extent, whose cells are the same up to blanks and empty texts. -/
structure Alike (left right : Grid) : Prop where
  name : left.name = right.name
  maxRows : left.maxRows = right.maxRows
  maxColumns : left.maxColumns = right.maxColumns
  cells : ∀ row column first second, left.cell? row column = some first →
    right.cell? row column = some second → first.Alike second

@[simp]
theorem max_rows_canonical (grid : Grid) : grid.canonical.maxRows = grid.maxRows :=
  List.length_map _

theorem cell_canonical (grid : Grid) (row column : Nat) :
    grid.canonical.cell? row column = (grid.cell? row column).map Cell.canonical := by
  cases row with
  | zero => rfl
  | succ row =>
      cases column with
      | zero => rfl
      | succ column =>
          simp only [cell?, canonical, List.getElem?_map]
          cases grid.rows[row]? with
          | none => rfl
          | some cells => exact List.getElem?_map

theorem eq_of_cells {left right : Grid} (name : left.name = right.name)
    (rows : left.maxRows = right.maxRows) (columns : left.maxColumns = right.maxColumns)
    (cells : ∀ row column, left.cell? row column = right.cell? row column) : left = right := by
  have same : left.rows = right.rows := by
    apply List.ext_getElem rows
    intro row leftBound rightBound
    have leftWidth := left.rectangular _ (List.getElem_mem leftBound)
    have rightWidth := right.rectangular _ (List.getElem_mem rightBound)
    apply List.ext_getElem?
    intro column
    have held := cells (row + 1) (column + 1)
    simpa [cell?, List.getElem?_eq_getElem leftBound, List.getElem?_eq_getElem rightBound] using held
  cases left
  cases right
  simp only [maxColumns] at columns
  simp_all

theorem canonical_eq_iff {left right : Grid} :
    left.canonical = right.canonical ↔ Alike left right := by
  constructor
  · intro same
    have name : left.canonical.name = right.canonical.name := congrArg Grid.name same
    have columns : left.canonical.columns = right.canonical.columns := congrArg Grid.columns same
    have rows : left.maxRows = right.maxRows := by
      rw [← max_rows_canonical left, same, max_rows_canonical]
    refine ⟨name, rows, columns, fun row column first second held other => ?_⟩
    have cells := congrArg (fun grid => grid.cell? row column) same
    simp only [cell_canonical, held, other, Option.map_some, Option.some.injEq] at cells
    exact Cell.canonical_eq_iff.1 cells
  · intro alike
    have rows : left.canonical.maxRows = right.canonical.maxRows := by
      rw [max_rows_canonical, max_rows_canonical, alike.maxRows]
    refine eq_of_cells alike.name rows alike.maxColumns fun row column => ?_
    rw [cell_canonical, cell_canonical]
    have allocated : (left.cell? row column).isSome = (right.cell? row column).isSome := by
      rw [Bool.eq_iff_iff, isSome_cell?, isSome_cell?, alike.maxRows, alike.maxColumns]
    cases held : left.cell? row column with
    | none =>
        cases other : right.cell? row column with
        | none => rfl
        | some second => simp [held, other] at allocated
    | some first =>
        cases other : right.cell? row column with
        | none => simp [held, other] at allocated
        | some second =>
            exact congrArg some (Cell.canonical_eq_iff.2 (alike.cells row column _ _ held other))

theorem alike_canonical (grid : Grid) : grid.canonical.Alike grid := by
  refine ⟨rfl, max_rows_canonical grid, rfl, fun row column first second held other => ?_⟩
  rw [cell_canonical, other] at held
  obtain rfl := Option.some.inj held
  exact Cell.canonical_alike second

variable (grid : Grid) (span : Span) (values : List Row)

section Measures

theorem last_position_map {α β : Type} (test : β → Bool) (change : α → β) (list : List α) :
    lastPosition test (list.map change) =
      lastPosition (fun element => test (change element)) list := by
  induction list with
  | nil => rfl
  | cons head rest induction => rw [List.map_cons, lastPosition, lastPosition, induction]

theorem is_filled_canonical (cell : Cell) : isFilled cell.canonical = isFilled cell := by
  rw [isFilled, isFilled, Cell.is_blank_canonical]

@[simp]
theorem measure_canonical : grid.canonical.measure = grid.measure := by
  funext metric
  cases metric with
  | lastRow =>
      rw [measure, measure, lastRow, canonical, last_position_map]
      simp only [Row.canonical, List.any_map, Function.comp_def, is_filled_canonical]
      rfl
  | lastColumn =>
      rw [measure, measure, lastColumn, canonical, List.foldr_map]
      simp only [Row.canonical, last_position_map, is_filled_canonical]
      rfl
  | maxRows => exact max_rows_canonical grid
  | maxColumns => rfl

end Measures

@[simp]
theorem check_bounds_canonical : grid.canonical.checkBounds span = grid.checkBounds span := by
  rw [checkBounds, checkBounds, max_rows_canonical]
  rfl

theorem block_canonical :
    grid.canonical.block span = (grid.block span).map Row.canonical := by
  rw [block, block, canonical, ← List.map_drop, ← List.map_take, List.map_map, List.map_map]
  congr 1
  funext row
  simp only [Function.comp_apply, Row.canonical, List.map_drop, List.map_take]

theorem read_canonical :
    grid.canonical.read span = (grid.read span).map (List.map Row.canonical) := by
  rw [read, read, check_bounds_canonical, block_canonical]
  cases grid.checkBounds span <;> rfl

theorem map_cells_canonical {change changed : Nat → Nat → Cell → Cell}
    (agrees : ∀ row column cell,
      changed row column cell.canonical = (change row column cell).canonical) :
    grid.canonical.mapCells changed = (grid.mapCells change).canonical := by
  refine eq_of_cells rfl ?_ rfl fun row column => ?_
  · simp [maxRows, mapCells, canonical]
  · rw [cell?_mapCells, cell_canonical, cell_canonical, cell?_mapCells]
    cases grid.cell? row column with
    | none => rfl
    | some cell => exact congrArg some (agrees row column cell)

theorem grow_canonical (rows columns : Nat) :
    grid.canonical.grow rows columns = (grid.grow rows columns).canonical := by
  refine eq_of_cells rfl ?_ rfl fun row column => ?_
  · simp [maxRows, grow, canonical]
  · rw [cell?_grow, cell_canonical, cell_canonical, cell?_grow, max_rows_canonical]
    have filled : ((grid.cell? row column).map Cell.canonical).getD .empty =
        ((grid.cell? row column).getD .empty).canonical := by
      cases grid.cell? row column <;> rfl
    rw [filled, apply_ite (Option.map Cell.canonical)]
    rfl

theorem has_shape_canonical :
    hasShape (values.map Row.canonical) span = hasShape values span := by
  simp only [hasShape, List.length_map, List.all_map, Function.comp_def, Row.canonical]

theorem value_at_canonical (row column : Nat) :
    valueAt? (values.map Row.canonical) row column =
      (valueAt? values row column).map Cell.canonical := by
  rw [valueAt?, valueAt?, List.getElem?_map]
  cases values[row]? with
  | none => rfl
  | some cells => exact List.getElem?_map

theorem write_canonical :
    grid.canonical.write span (values.map Row.canonical) =
      (grid.write span values).map canonical := by
  rw [write, write, has_shape_canonical, grow_canonical]
  by_cases shaped : hasShape values span = true
  · rw [if_pos shaped, if_pos shaped]
    refine congrArg Except.ok (map_cells_canonical _ fun row column cell => ?_)
    by_cases covered : span.covers row column = true
    · rw [if_pos covered, if_pos covered, value_at_canonical]
      cases valueAt? values (row - span.row) (column - span.column) <;> rfl
    · rw [if_neg covered, if_neg covered]
  · rw [if_neg shaped, if_neg shaped]
    rfl

theorem block_of_address_canonical (address : String) :
    grid.canonical.blockOfAddress address = grid.blockOfAddress address := by
  simp only [blockOfAddress, max_rows_canonical, check_bounds_canonical]
  rfl

theorem blank_blocks_canonical (spans : List Span) :
    grid.canonical.blankBlocks spans = (grid.blankBlocks spans).canonical := by
  refine map_cells_canonical _ fun row column cell => ?_
  by_cases covered : (spans.any fun span => span.covers row column) = true
  · rw [if_pos covered, if_pos covered]
    rfl
  · rw [if_neg covered, if_neg covered]

theorem clear_canonical (addresses : List String) :
    grid.canonical.clear addresses = (grid.clear addresses).map canonical := by
  have blocks : grid.canonical.blockOfAddress = grid.blockOfAddress :=
    funext (block_of_address_canonical grid)
  rw [clear, clear, blocks]
  cases addresses.mapM grid.blockOfAddress with
  | error cause => rfl
  | ok spans => exact congrArg Except.ok (blank_blocks_canonical grid spans)

theorem sort_rows_canonical (key : Nat) (ascending : Bool) (rows : List Row) :
    sortRows key ascending (rows.map Row.canonical) =
      (sortRows key ascending rows).map Row.canonical := by
  rw [sortRows, sortRows]
  refine (List.map_mergeSort fun left _ right _ => ?_).symm
  rw [Row.get_d_canonical, Row.get_d_canonical, Cell.key_order_canonical]

def sortedPositions (key : Nat) (ascending : Bool) (rows : List Row) : List Nat :=
  (List.range rows.length).mergeSort fun left right =>
    (Cell.keyOrder ascending ((rows.getD left []).getD key .empty)
      ((rows.getD right []).getD key .empty)).isLE

theorem rows_by_position (rows : List Row) :
    (List.range rows.length).map (fun index => rows.getD index []) = rows := by
  apply List.ext_getElem?
  intro index
  rw [List.getElem?_map]
  by_cases inside : index < rows.length
  · rw [List.getElem?_range inside, Option.map_some, List.getD_eq_getElem?_getD,
      List.getElem?_eq_getElem inside, Option.getD_some]
  · rw [List.getElem?_eq_none (by simpa using inside), List.getElem?_eq_none (by omega)]
    rfl

/-- Sorting picks the rows by their positions. -/
theorem sort_rows_by_position (key : Nat) (ascending : Bool) (rows : List Row) :
    sortRows key ascending rows =
      (sortedPositions key ascending rows).map fun index => rows.getD index [] := by
  have picked : (sortedPositions key ascending rows).map (fun index => rows.getD index []) =
      sortRows key ascending ((List.range rows.length).map fun index => rows.getD index []) :=
    List.map_mergeSort fun _ _ _ _ => rfl
  rw [picked, rows_by_position]

theorem sorted_positions_perm (key : Nat) (ascending : Bool) (rows : List Row) :
    (sortedPositions key ascending rows).Perm (List.range rows.length) := List.mergeSort_perm _ _

theorem sorted_positions_canonical (key : Nat) (ascending : Bool) (rows : List Row) :
    sortedPositions key ascending (rows.map Row.canonical) = sortedPositions key ascending rows := by
  have row : ∀ index, ((rows.map Row.canonical).getD index []).getD key .empty =
      ((rows.getD index []).getD key .empty).canonical := by
    intro index
    rw [← Row.get_d_canonical]
    simp only [List.getD_eq_getElem?_getD, List.getElem?_map]
    cases rows[index]? <;> rfl
  rw [sortedPositions, sortedPositions, List.length_map]
  simp only [row, Cell.key_order_canonical]

theorem sort_canonical (column : Nat) (ascending : Bool) :
    grid.canonical.sort span column ascending =
      (grid.sort span column ascending).map canonical := by
  rw [sort, sort, check_bounds_canonical]
  cases checked : grid.checkBounds span with
  | error cause => rfl
  | ok nothing =>
      by_cases outside : column < span.column ∨ span.lastColumn < column
      · simp only [if_pos outside]
        rfl
      · simp only [if_neg outside]
        rw [read_canonical, read, checked]
        have written := write_canonical grid span
          (sortRows (column - span.column) ascending (grid.block span))
        rw [← sort_rows_canonical] at written
        exact written

end Grid

namespace GridChange

def canonical : GridChange → GridChange
  | .write span values => .write span (values.map Row.canonical)
  | .clear addresses => .clear addresses
  | .sort span column ascending => .sort span column ascending

theorem apply_canonical (change : GridChange) (grid : Grid) :
    change.canonical.apply grid.canonical = (change.apply grid).map Grid.canonical := by
  cases change with
  | write span values => exact Grid.write_canonical grid span values
  | clear addresses => exact Grid.clear_canonical grid addresses
  | sort span column ascending => exact Grid.sort_canonical grid span column ascending

end GridChange

end GridStore
