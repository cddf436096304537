import GridStore.Proofs.Columns
import GridStore.Proofs.Region.Steps

/-!
Blocks of a grid taken out and filled in by slices, first of the rows and then of the cells of a
row. A slice has to be there in full.

Main statements: whenever a block is read, written or cleared, all the slices that takes are there,
and they make up the result.
-/

set_option autoImplicit false

namespace GridStore.Grid

section Slices

variable {α : Type}

/-- The elements between two positions counted from zero, unless some of them are missing. -/
def slice? (start stop : Nat) (list : List α) : Option (List α) :=
  if start ≤ stop ∧ stop ≤ list.length then some ((list.drop start).take (stop - start)) else none

/-- The list with others for the elements between two positions, one for each of them. -/
def splice? (start stop : Nat) (inner list : List α) : Option (List α) :=
  if (start ≤ stop ∧ stop ≤ list.length) ∧ inner.length = stop - start then
    some (list.take start ++ inner ++ list.drop stop)
  else none

variable {start stop : Nat} {inner list : List α}

theorem slice_some (inside : start ≤ stop ∧ stop ≤ list.length) :
    slice? start stop list = some ((list.drop start).take (stop - start)) := if_pos inside

/-- Splicing seen from the single elements. -/
theorem splice_some (inside : start ≤ stop ∧ stop ≤ list.length)
    (fills : inner.length = stop - start) :
    splice? start stop inner list = some (list.mapIdx fun index held =>
      if start ≤ index ∧ index < stop then inner[index - start]?.getD held else held) := by
  rw [splice?, if_pos ⟨inside, fills⟩, Option.some.injEq]
  apply List.ext_getElem?
  intro index
  have front : (list.take start ++ inner).length = stop := by
    rw [List.length_append, List.length_take]
    omega
  rw [List.getElem?_mapIdx]
  by_cases before : index < start
  · have early : ¬(start ≤ index ∧ index < stop) := by omega
    simp only [if_neg early, Option.map_id_fun', id]
    rw [List.getElem?_append_left (by omega), List.getElem?_append_left (by simp; omega),
      List.getElem?_take_of_lt before]
  · by_cases within : index < stop
    · have fresh : inner[index - start]? = some inner[index - start] :=
        List.getElem?_eq_getElem (by omega)
      have held : list[index]? = some list[index] := List.getElem?_eq_getElem (by omega)
      have shift : (list.take start).length = start := by
        rw [List.length_take]
        omega
      rw [List.getElem?_append_left (by omega), List.getElem?_append_right (by omega), shift, fresh,
        held, Option.map_some, if_pos (by omega)]
      rfl
    · have late : ¬(start ≤ index ∧ index < stop) := by omega
      simp only [if_neg late, Option.map_id_fun', id]
      rw [List.getElem?_append_right (by omega), front, List.getElem?_drop]
      congr 1
      omega

theorem map_m_some {β : Type} {step : α → Option β} {result : α → β} {items : List α}
    (steps : ∀ item ∈ items, step item = some (result item)) :
    items.mapM step = some (items.map result) := by
  induction items with
  | nil => rfl
  | cons item rest induction =>
      have here := steps item List.mem_cons_self
      have there := induction fun other member => steps other (List.mem_cons_of_mem _ member)
      rw [List.mapM_cons, here, there]
      rfl

end Slices

def cut? (span : Span) (rows : List Row) : Option (List Row) := do
  let lines ← slice? (span.row - 1) span.lastRow rows
  lines.mapM (slice? (span.column - 1) span.lastColumn)

def paste? (span : Span) (values rows : List Row) : Option (List Row) := do
  let lines ← slice? (span.row - 1) span.lastRow rows
  let filled ← (values.zip lines).mapM fun (cells, line) =>
    splice? (span.column - 1) span.lastColumn cells line
  splice? (span.row - 1) span.lastRow filled rows

def blankValues (span : Span) : List Row := List.replicate span.rows (blankRow span.columns)

variable {grid after : Grid} {span : Span} {values rows : List Row}

theorem cut_of_read (read : grid.read span = .ok values) : cut? span grid.rows = some values := by
  obtain ⟨checked, rfl⟩ := read_ok_iff.1 read
  obtain ⟨⟨top, left, -, -⟩, bottom, right⟩ := inside_of_check checked
  have height : span.lastRow - (span.row - 1) = span.rows := by
    rw [Span.lastRow]
    omega
  have width : span.lastColumn - (span.column - 1) = span.columns := by
    rw [Span.lastColumn]
    omega
  have low : span.row - 1 ≤ span.lastRow ∧ span.lastRow ≤ grid.rows.length := by
    rw [Span.lastRow]
    omega
  rw [cut?, slice_some low, height]
  refine (map_m_some fun line member => ?_).trans rfl
  have long : line.length = grid.columns :=
    grid.rectangular line (List.mem_of_mem_drop (List.mem_of_mem_take member))
  have inside : span.column - 1 ≤ span.lastColumn ∧ span.lastColumn ≤ line.length := by
    rw [Span.lastColumn]
    omega
  rw [slice_some inside, width]

def fillRow (span : Span) (cells line : Row) : Row := line.mapIdx fun column held =>
  if span.column - 1 ≤ column ∧ column < span.lastColumn then
    cells[column - (span.column - 1)]?.getD held
  else held

/-- What pasting does to the rows of a block, cell by cell. -/
theorem fill_row_eq {row : Nat} {cells : Row} (corner : 1 ≤ span.row ∧ 1 ≤ span.column)
    (inside : span.row - 1 ≤ row ∧ row < span.lastRow)
    (given : values[row + 1 - span.row]? = some cells) (line : Row) :
    fillRow span cells line = line.mapIdx fun column held =>
      if span.covers (row + 1) (column + 1) then
        (valueAt? values (row + 1 - span.row) (column + 1 - span.column)).getD held
      else held := by
  apply List.ext_getElem?
  intro column
  rw [fillRow, List.getElem?_mapIdx, List.getElem?_mapIdx]
  congr 1
  funext held
  have rowInside : span.row ≤ row + 1 ∧ row + 1 < span.row + span.rows := by
    rw [Span.lastRow] at inside
    omega
  by_cases within : span.column - 1 ≤ column ∧ column < span.lastColumn
  · have covered : span.covers (row + 1) (column + 1) = true := by
      rw [Span.covers_iff]
      rw [Span.lastColumn] at within
      omega
    have shift : column + 1 - span.column = column - (span.column - 1) := by omega
    rw [if_pos within, if_pos covered, valueAt?, given, shift]
    rfl
  · have uncovered : ¬span.covers (row + 1) (column + 1) = true := by
      rw [Span.covers_iff]
      rw [Span.lastColumn] at within
      omega
    rw [if_neg within, if_neg uncovered]

theorem fill_rows_some {lines : List Row} (left : 1 ≤ span.column)
    (width : ∀ cells ∈ values, cells.length = span.columns)
    (right : ∀ line ∈ lines, span.lastColumn ≤ line.length) :
    (values.zip lines).mapM
        (fun (cells, line) => splice? (span.column - 1) span.lastColumn cells line) =
      some (List.zipWith (fillRow span) values lines) := by
  rw [← List.map_uncurry_zip_eq_zipWith]
  refine map_m_some fun pair member => ?_
  obtain ⟨cells, line⟩ := pair
  obtain ⟨given, listed⟩ := List.of_mem_zip member
  have long := right line listed
  have wide := width cells given
  refine splice_some ⟨?_, long⟩ ?_
  · rw [Span.lastColumn]
    omega
  · rw [wide, Span.lastColumn]
    omega

theorem paste_some (corner : 1 ≤ span.row ∧ 1 ≤ span.column) (shaped : hasShape values span = true)
    (bottom : span.lastRow ≤ rows.length) (right : ∀ row ∈ rows, span.lastColumn ≤ row.length) :
    paste? span values rows = some (rows.mapIdx fun row cells =>
      cells.mapIdx fun column held =>
        if span.covers (row + 1) (column + 1) then
          (valueAt? values (row + 1 - span.row) (column + 1 - span.column)).getD held
        else held) := by
  simp only [hasShape, Bool.and_eq_true, beq_iff_eq, List.all_eq_true] at shaped
  obtain ⟨height, width⟩ := shaped
  have low : span.row - 1 ≤ span.lastRow ∧ span.lastRow ≤ rows.length := by
    rw [Span.lastRow] at bottom ⊢
    omega
  have lines : span.lastRow - (span.row - 1) = span.rows := by
    rw [Span.lastRow]
    omega
  have fits : ∀ line ∈ (rows.drop (span.row - 1)).take span.rows, span.lastColumn ≤ line.length :=
    fun line member => right line (List.mem_of_mem_drop (List.mem_of_mem_take member))
  have count : (List.zipWith (fillRow span) values
      ((rows.drop (span.row - 1)).take span.rows)).length = span.lastRow - (span.row - 1) := by
    rw [List.length_zipWith, List.length_take, List.length_drop]
    omega
  rw [paste?, slice_some low, lines]
  simp only [Option.bind_eq_bind, Option.bind_some]
  rw [fill_rows_some corner.2 width fits, Option.bind_some, splice_some low count, Option.some.injEq]
  apply List.ext_getElem?
  intro row
  rw [List.getElem?_mapIdx, List.getElem?_mapIdx]
  by_cases held : row < rows.length
  · rw [List.getElem?_eq_getElem held, Option.map_some, Option.map_some, Option.some.injEq]
    by_cases inside : span.row - 1 ≤ row ∧ row < span.lastRow
    · have offset : row - (span.row - 1) = row + 1 - span.row := by omega
      have given : values[row + 1 - span.row]? = some values[row + 1 - span.row] :=
        List.getElem?_eq_getElem (by omega)
      have listed : ((rows.drop (span.row - 1)).take span.rows)[row + 1 - span.row]? =
          some rows[row] := by
        have position : span.row - 1 + (row + 1 - span.row) = row := by omega
        rw [List.getElem?_take_of_lt (by omega), List.getElem?_drop, position,
          List.getElem?_eq_getElem held]
      rw [if_pos inside, offset, List.getElem?_zipWith, given, listed]
      exact fill_row_eq corner inside given rows[row]
    · have uncovered : ∀ column, ¬span.covers (row + 1) (column + 1) = true := by
        intro column
        rw [Span.covers_iff]
        rw [Span.lastRow] at inside
        omega
      simp only [if_neg inside, if_neg (uncovered _)]
      apply List.ext_getElem?
      simp
  · rw [List.getElem?_eq_none (Nat.le_of_not_lt held)]
    rfl

/-- Growing makes room for the block, and writing fills it. -/
theorem paste_of_write (corner : 1 ≤ span.row ∧ 1 ≤ span.column)
    (wrote : grid.write span values = .ok after) :
    paste? span values (grid.grow span.lastRow span.lastColumn).rows = some after.rows := by
  have written := written_of_write corner wrote
  rw [write, if_pos written.shaped] at wrote
  obtain rfl := Except.ok.inj wrote
  refine paste_some corner written.shaped ?_ ?_
  · simp only [grow, List.length_append, List.length_map, List.length_replicate]
    omega
  · intro row member
    rw [(grid.grow span.lastRow span.lastColumn).rectangular row member]
    exact Nat.le_max_right _ _

theorem blank_shaped (span : Span) : hasShape (blankValues span) span = true := by
  simp only [hasShape, Bool.and_eq_true, beq_iff_eq, List.all_eq_true, blankValues]
  refine ⟨List.length_replicate, ?_⟩
  intro row member
  rw [List.eq_of_mem_replicate member, length_blankRow]

theorem value_of_blank {row column : Nat} {cell : Cell}
    (value : valueAt? (blankValues span) row column = some cell) : cell = .empty := by
  obtain ⟨cells, listed, held⟩ := Option.bind_eq_some_iff.1 value
  obtain rfl := List.eq_of_mem_replicate (List.mem_of_getElem? listed)
  exact List.eq_of_mem_replicate (List.mem_of_getElem? held)

theorem paste_blank (checked : grid.checkBounds span = .ok ()) :
    paste? span (blankValues span) grid.rows = some (grid.blankBlocks [span]).rows := by
  obtain ⟨⟨top, left, -, -⟩, bottom, right⟩ := inside_of_check checked
  rw [paste_some ⟨top, left⟩ (blank_shaped span) bottom
    fun row member => (grid.rectangular row member).symm ▸ right, Option.some.injEq, blankBlocks,
    mapCells]
  simp only [List.any_cons, List.any_nil, Bool.or_false]
  congr 1
  funext row cells
  congr 1
  funext column held
  by_cases covered : span.covers (row + 1) (column + 1) = true
  · obtain ⟨cell, value⟩ := value_at_shaped (blank_shaped span) covered
    rw [if_pos covered, if_pos covered, value, value_of_blank value]
    rfl
  · rw [if_neg covered, if_neg covered]

theorem blank_one_more (grid : Grid) (span : Span) (rest : List Span) :
    (grid.blankBlocks [span]).blankBlocks rest = grid.blankBlocks (span :: rest) := by
  simp only [blankBlocks, mapCells, List.mapIdx_mapIdx, Grid.mk.injEq, true_and]
  congr 1
  funext row cells
  simp only [Function.comp_apply, List.mapIdx_mapIdx]
  congr 1
  funext column held
  by_cases covered : span.covers (row + 1) (column + 1) = true
  · simp [covered]
  · simp [covered]

theorem check_blank_blocks {spans : List Span} :
    (grid.blankBlocks spans).checkBounds span = grid.checkBounds span := by
  have height : (grid.blankBlocks spans).rows.length = grid.rows.length := List.length_mapIdx
  simp only [checkBounds, maxRows, maxColumns, height]
  rfl

theorem paste_blanks {spans : List Span} (inside : ∀ span ∈ spans, grid.checkBounds span = .ok ()) :
    spans.foldlM (fun rows span => paste? span (blankValues span) rows) grid.rows =
      some (grid.blankBlocks spans).rows := by
  induction spans generalizing grid with
  | nil =>
      rw [Region.blank_no_blocks]
      rfl
  | cons span rest induction =>
      obtain ⟨here, later⟩ := List.forall_mem_cons.1 inside
      have still : ∀ other ∈ rest, (grid.blankBlocks [span]).checkBounds other = .ok () := by
        intro other member
        rw [check_blank_blocks]
        exact later other member
      have there := induction still
      rw [blank_one_more] at there
      rw [List.foldlM_cons, paste_blank here]
      exact there

theorem check_of_address {address : String} (found : grid.blockOfAddress address = .ok span) :
    grid.checkBounds span = .ok () := by
  rw [blockOfAddress] at found
  cases read : Span.ofA1 address grid.maxRows grid.maxColumns with
  | error cause =>
      rw [read] at found
      cases found
  | ok block =>
      cases checked : grid.checkBounds block with
      | error cause =>
          simp only [read, checked] at found
          cases found
      | ok nothing =>
          simp only [read, checked] at found
          obtain rfl := Except.ok.inj found
          exact checked

theorem check_of_addresses {addresses : List String} {spans : List Span}
    (found : List.Forall₂ (fun address span => grid.blockOfAddress address = .ok span) addresses
      spans) : ∀ span ∈ spans, grid.checkBounds span = .ok () := by
  induction found with
  | nil => simp
  | cons read _ induction => exact List.forall_mem_cons.2 ⟨check_of_address read, induction⟩

theorem paste_of_clear {addresses : List String} (cleared : grid.clear addresses = .ok after) :
    ∃ spans, addresses.mapM grid.blockOfAddress = .ok spans ∧
      spans.foldlM (fun rows span => paste? span (blankValues span) rows) grid.rows =
        some after.rows := by
  rw [clear] at cleared
  cases found : addresses.mapM grid.blockOfAddress with
  | error cause =>
      rw [found] at cleared
      cases cleared
  | ok spans =>
      rw [found] at cleared
      obtain rfl := Except.ok.inj cleared
      exact ⟨spans, rfl, paste_blanks (check_of_addresses (beside_of_map_m found))⟩

end GridStore.Grid
