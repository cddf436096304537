import GridStore.Proofs.DataSource.Run
import GridStore.Proofs.Grid.Slices
import GridStore.Proofs.Region.Failure

/-!
Grids as stores. However a grid has come about and whatever has been done to it since, its rows have
one length, a block that was written reads as what was written to it, and the rest of the grid stays
as it was.
-/

set_option autoImplicit false

namespace GridStore

/-- Values with a row for each row of a block, and a cell for each of its columns. -/
def Grid.Shaped (span : Span) (values : List Row) : Prop :=
  values.length = span.rows ∧ ∀ row ∈ values, row.length = span.columns

/-- What a grid promises about its cells, and about the next thing that is done to them. -/
structure Grid.StoreLaws (grid : Grid) : Prop where
  rectangular : ∀ row ∈ grid.rows, row.length = grid.maxColumns
  read : ∀ span values, grid.read span = .ok values → Grid.cut? span grid.rows = some values
  written : ∀ span values after, span.isDegenerate = false → grid.write span values = .ok after →
    Grid.paste? span values (grid.grow span.lastRow span.lastColumn).rows = some after.rows ∧
      after.read span = .ok values ∧ Grid.Written grid after span values
  accepted : ∀ span values, Grid.Shaped span values → ∃ after, grid.write span values = .ok after
  refused : ∀ span values cache, ¬Grid.Shaped span values →
    Sheet.setValues span values ⟨grid, cache⟩ = .error (.grid (.wrongShape span)) ⟨grid, .empty⟩
  cleared : ∀ addresses after, grid.clear addresses = .ok after →
    ∃ spans, addresses.mapM grid.blockOfAddress = .ok spans ∧
      spans.foldlM (fun rows span => Grid.paste? span (Grid.blankValues span) rows) grid.rows =
        some after.rows
  sorted : ∀ span column ascending after, grid.sort span column ascending = .ok after →
    ∃ values, grid.read span = .ok values ∧ span.column ≤ column ∧
      (∀ row ∈ values, column - span.column < row.length) ∧
      grid.write span (Grid.sortRows (column - span.column) ascending values) = .ok after

namespace Grid

variable {grid after : Grid} {span : Span} {values : List Row}

theorem corner_of_proper (proper : span.isDegenerate = false) : 1 ≤ span.row ∧ 1 ≤ span.column := by
  simp only [Span.isDegenerate, Bool.or_eq_false_iff, beq_eq_false_iff_ne] at proper
  omega

theorem read_of_written (proper : span.isDegenerate = false)
    (wrote : Written grid after span values) : after.read span = .ok values := by
  have readable : after.checkBounds span = .ok () := by
    rw [check_bounds_ok_iff, wrote.maxRows, wrote.maxColumns]
    exact ⟨proper, Nat.le_max_right _ _, Nat.le_max_right _ _⟩
  exact read_ok_iff.2 ⟨readable, (block_of_written readable wrote).symm⟩

theorem has_shape_iff : hasShape values span = true ↔ Shaped span values := by
  simp only [hasShape, Shaped, Bool.and_eq_true, beq_iff_eq, List.all_eq_true]

theorem keys_of_sort {column : Nat} {ascending : Bool}
    (sorted : grid.sort span column ascending = .ok after) :
    ∃ values, grid.read span = .ok values ∧ span.column ≤ column ∧
      (∀ row ∈ values, column - span.column < row.length) ∧
      grid.write span (sortRows (column - span.column) ascending values) = .ok after := by
  obtain ⟨readable, ⟨left, right⟩, wrote⟩ := sort_ok_iff.1 sorted
  refine ⟨_, read_ok_iff.2 ⟨readable, rfl⟩, left, ?_, wrote⟩
  intro row member
  obtain ⟨⟨-, -, -, wide⟩, -⟩ := inside_of_check readable
  rw [block_eq_rows readable] at member
  obtain ⟨position, -, rfl⟩ := List.mem_map.1 member
  rw [Span.lastColumn] at right
  simp only [rowFrom, List.length_map, List.length_range]
  omega

theorem store_laws (grid : Grid) : grid.StoreLaws where
  rectangular := grid.rectangular
  read _ _ := cut_of_read
  written span values after proper wrote := by
    have corner := corner_of_proper proper
    have written := written_of_write corner wrote
    exact ⟨paste_of_write corner wrote, read_of_written proper written, written⟩
  accepted _ _ shaped := write_shaped grid (has_shape_iff.2 shaped)
  refused span values cache other := by
    rw [← has_shape_iff] at other
    exact Region.change_error (if_neg other)
  cleared _ _ := paste_of_clear
  sorted _ _ _ _ := keys_of_sort

end Grid

namespace Sheet

def after (sheet : Sheet) (change : GridChange) : Sheet := (Sheet.change change.apply).final sheet

def afterAll (sheet : Sheet) (changes : List GridChange) : Sheet := changes.foldl after sheet

theorem after_cases (sheet : Sheet) (change : GridChange) :
    (∃ grid, change.apply sheet.grid = .ok grid ∧ sheet.after change = ⟨grid, .empty⟩) ∨
      ∃ cause, change.apply sheet.grid = .error cause ∧
        sheet.after change = ⟨sheet.grid, .empty⟩ := by
  cases applied : change.apply sheet.grid with
  | ok grid =>
      have changed := Region.change_ok_iff.2 ⟨grid, applied, rfl⟩
      exact Or.inl ⟨grid, rfl, DataSource.final_of_ok changed⟩
  | error cause =>
      exact Or.inr ⟨cause, rfl, DataSource.final_of_error (Region.change_error applied)⟩

theorem extent_le_after (sheet : Sheet) (change : GridChange) :
    sheet.grid.maxRows ≤ (sheet.after change).grid.maxRows ∧
      sheet.grid.maxColumns ≤ (sheet.after change).grid.maxColumns := by
  rcases after_cases sheet change with ⟨grid, applied, same⟩ | ⟨cause, -, same⟩
  · rw [same]
    exact GridChange.extent_le applied
  · rw [same]
    exact ⟨Nat.le_refl _, Nat.le_refl _⟩

theorem extent_le_after_all (sheet : Sheet) (changes : List GridChange) :
    sheet.grid.maxRows ≤ (sheet.afterAll changes).grid.maxRows ∧
      sheet.grid.maxColumns ≤ (sheet.afterAll changes).grid.maxColumns := by
  induction changes generalizing sheet with
  | nil => exact ⟨Nat.le_refl _, Nat.le_refl _⟩
  | cons change rest induction =>
      obtain ⟨rows, columns⟩ := extent_le_after sheet change
      obtain ⟨laterRows, laterColumns⟩ := induction (sheet.after change)
      exact ⟨Nat.le_trans rows laterRows, Nat.le_trans columns laterColumns⟩

/-- Whatever has been done to a grid, it obeys the laws of a store, and has lost neither rows nor
columns. -/
theorem reachable_grid_obeys_store_laws (start : Sheet) (changes : List GridChange) :
    (start.afterAll changes).grid.StoreLaws ∧
      start.grid.maxRows ≤ (start.afterAll changes).grid.maxRows ∧
        start.grid.maxColumns ≤ (start.afterAll changes).grid.maxColumns := by
  have laws := Grid.store_laws (start.afterAll changes).grid
  have grown := extent_le_after_all start changes
  exact ⟨laws, grown⟩

/-- A block below and beside two uneven rows. -/
example : ((Grid.ofRows "people" [[.string "Ann"], [.string "Bob", .boolean true]]).write ⟨3, 3, 1, 1⟩
    [[.boolean false]]).map Grid.rows =
      .ok [[.string "Ann", .empty, .empty], [.string "Bob", .boolean true, .empty],
        [.empty, .empty, .boolean false]] := by decide +kernel

end Sheet

end GridStore
