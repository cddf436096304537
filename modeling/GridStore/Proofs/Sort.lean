import GridStore.Proofs.Grid.Sort
import GridStore.Proofs.Region.Failure

/-!
Sorting a region: its rows, down to the bottom of the sheet, are put in the order of one of its
columns. A column outside the region is refused, even where the sum that locates it starts again
at zero.
-/

set_option autoImplicit false

namespace GridStore

/-- The column of the grid that a region is to be sorted by: the one asked for, counted from one
within the region, and the first one if none or the zeroth is asked for. -/
def SortOptions.keyColumn (options : SortOptions) (span : Span) : Nat :=
  span.column + max 1 (options.column.getD 1) - 1

namespace Region

variable {options : SortOptions} {region measured after : Region}

theorem sort_column_cases {span : Span} (addressable : span.Addressable)
    (size : ∀ column ∈ options.column, column ≤ Size.largest) :
    sortColumn span options.column = options.keyColumn span ∨
      sortColumn span options.column < span.column ∧ span.lastColumn < options.keyColumn span := by
  obtain ⟨⟨-, left, -, wide⟩, -, right⟩ := addressable
  have bound : Size.bound = Size.largest + 1 := rfl
  rw [SortOptions.keyColumn, Span.lastColumn]
  cases asked : options.column with
  | none =>
      have first : sortColumn span none = span.column := rfl
      rw [first, Option.getD_none]
      omega
  | some column =>
      have small := size column asked
      cases column with
      | zero =>
          have first : sortColumn span (some 0) = span.column := rfl
          rw [first, Option.getD_some]
          omega
      | succ column =>
          rw [sortColumn, Size.wrapped, Option.getD_some]
          by_cases fits : column + span.column < Size.bound
          · left
            rw [Nat.mod_eq_of_lt fits]
            omega
          · right
            rw [Nat.mod_eq_sub_mod (Nat.le_of_not_lt fits), Nat.mod_eq_of_lt (by omega)]
            omega

/-- The column to sort by is in the region exactly if the grid finds it there. -/
theorem sort_column_inside_iff {span : Span} (addressable : span.Addressable)
    (size : ∀ column ∈ options.column, column ≤ Size.largest) :
    (span.column ≤ sortColumn span options.column ∧
        sortColumn span options.column ≤ span.lastColumn) ↔
      options.keyColumn span ≤ span.lastColumn := by
  have above : span.column ≤ options.keyColumn span := by
    rw [SortOptions.keyColumn]
    omega
  rcases sort_column_cases addressable size with same | ⟨before, beyond⟩
  · rw [same]
    exact ⟨And.right, fun inside => ⟨above, inside⟩⟩
  · omega

def sortedGrid (options : SortOptions) (measured : Region) : Except GridError Grid :=
  measured.sheet.grid.sort measured.span (sortColumn measured.span options.column)
    (options.ascending.getD false)

theorem sort_after_measuring (first : remeasure region = .ok () measured) :
    sort options region = (onSheet (Sheet.change fun grid => grid.sort measured.span
      (sortColumn measured.span options.column) (options.ascending.getD false)) >>=
        fun _ => remeasure) measured := by
  rw [sort, Action.bind_of_ok first, Action.bind_of_ok Action.get_apply]
  rfl

theorem sort_refused {cause : GridError} (first : remeasure region = .ok () measured)
    (refused : sortedGrid options measured = .error cause) :
    ∃ stopped, sort options region = .error (.grid cause) stopped ∧
      stopped.sheet.grid = region.sheet.grid := by
  have sameGrid : measured.sheet.grid = region.sheet.grid := grid_of_remeasure first
  rw [sort_after_measuring first, Action.bind_of_error (change_refused refused)]
  exact ⟨_, rfl, sameGrid⟩

theorem to_bottom_measured {grid other : Grid} {asked measured : Span}
    (fits : Measured grid asked measured) (sameRows : other.maxRows = grid.maxRows) :
    toBottom other measured = measured := by
  have rows : other.maxRows - (measured.row - 1) = measured.rows := by
    rw [sameRows, fits.row, fits.rows]
  rw [toBottom, rows]

theorem sort_done {grid : Grid} (exact : region.sheet.grid.maxRows < exactBound)
    (first : remeasure region = .ok () measured)
    (sorted : sortedGrid options measured = .ok grid)
    (sameRows : grid.maxRows = region.sheet.grid.maxRows) :
    ∃ settled, sort options region = .ok () settled ∧ settled.sheet.grid = grid ∧
      settled.span = measured.span := by
  obtain ⟨fits, -, -⟩ := measured_of_remeasure first exact
  obtain ⟨cache, -, again⟩ := remeasure_again .empty first exact (Nat.le_of_eq sameRows.symm)
    (sameRows ▸ exact)
  have changed : (onSheet (Sheet.change fun grid => grid.sort measured.span
      (sortColumn measured.span options.column) (options.ascending.getD false)) :
        Action Region PUnit) measured = .ok () { measured with sheet := ⟨grid, .empty⟩ } :=
    on_sheet_ok (change_ok_iff.2 ⟨grid, sorted, rfl⟩)
  rw [sort_after_measuring first, Action.bind_of_ok changed]
  exact ⟨_, again, rfl, to_bottom_measured fits sameRows⟩

def CanSort (options : SortOptions) (grid : Grid) (span : Span) : Prop :=
  grid.checkBounds span = .ok () ∧ options.keyColumn span ≤ span.lastColumn

theorem sort_measured (exact : region.sheet.grid.maxRows < exactBound)
    (size : ∀ column ∈ options.column, column ≤ Size.largest)
    (first : remeasure region = .ok () measured)
    (sortable : CanSort options region.sheet.grid measured.span) :
    ∃ settled, sort options region = .ok () settled ∧ settled.span = measured.span ∧
      Grid.Refilled region.sheet.grid settled.sheet.grid measured.span
        (Grid.sortRows (options.keyColumn measured.span - measured.span.column)
          (options.ascending.getD false) (region.sheet.grid.block measured.span)) := by
  have sameGrid : measured.sheet.grid = region.sheet.grid := grid_of_remeasure first
  obtain ⟨fits, -, -⟩ := measured_of_remeasure first exact
  obtain ⟨readable, inside⟩ := sortable
  have found := (sort_column_inside_iff fits.addressable size).2 inside
  have same : sortColumn measured.span options.column = options.keyColumn measured.span := by
    rcases sort_column_cases fits.addressable size with same | ⟨before, -⟩
    · exact same
    · omega
  obtain ⟨grid, sorted, refilled⟩ :=
    Grid.sort_refills (options.ascending.getD false) readable found
  rw [← sameGrid] at sorted
  obtain ⟨settled, finished, settledGrid, span⟩ := sort_done exact first sorted refilled.maxRows
  refine ⟨settled, finished, span, ?_⟩
  rw [settledGrid, ← same]
  exact refilled

theorem sort_unsortable (exact : region.sheet.grid.maxRows < exactBound)
    (size : ∀ column ∈ options.column, column ≤ Size.largest)
    (first : remeasure region = .ok () measured)
    (unsortable : ¬CanSort options region.sheet.grid measured.span) :
    ∃ error stopped, sort options region = .error error stopped ∧
      stopped.sheet.grid = region.sheet.grid := by
  have sameGrid : measured.sheet.grid = region.sheet.grid := grid_of_remeasure first
  obtain ⟨fits, -, -⟩ := measured_of_remeasure first exact
  cases sorted : sortedGrid options measured with
  | error cause => exact ⟨.grid cause, sort_refused first sorted⟩
  | ok grid =>
      rw [sortedGrid, sameGrid, Grid.sort_ok_iff] at sorted
      obtain ⟨readable, found, -⟩ := sorted
      exact absurd ⟨readable, (sort_column_inside_iff fits.addressable size).1 found⟩ unsortable

/-- What a sort that succeeds has done. -/
theorem refilled_of_sort (exact : region.sheet.grid.maxRows < exactBound)
    (size : ∀ column ∈ options.column, column ≤ Size.largest)
    (sorted : sort options region = .ok () after) :
    ∃ measured, remeasure region = .ok () measured ∧
      CanSort options region.sheet.grid measured.span ∧ after.span = measured.span ∧
        Grid.Refilled region.sheet.grid after.sheet.grid measured.span
          (Grid.sortRows (options.keyColumn measured.span - measured.span.column)
            (options.ascending.getD false) (region.sheet.grid.block measured.span)) := by
  obtain ⟨⟨⟩, measured, first, -⟩ := Action.bind_ok_iff.1 sorted
  by_cases sortable : CanSort options region.sheet.grid measured.span
  · obtain ⟨settled, finished, span, refilled⟩ := sort_measured exact size first sortable
    rw [sorted] at finished
    obtain rfl : after = settled := (EStateM.Result.ok.inj finished).2
    exact ⟨measured, first, sortable, span, refilled⟩
  · obtain ⟨error, stopped, failed, -⟩ := sort_unsortable exact size first sortable
    rw [sorted] at failed
    cases failed

theorem grid_of_failed_sort {error : Error} (exact : region.sheet.grid.maxRows < exactBound)
    (size : ∀ column ∈ options.column, column ≤ Size.largest)
    (failed : sort options region = .error error after) :
    after.sheet.grid = region.sheet.grid := by
  rcases Action.bind_error_iff.1 failed with unmeasured | ⟨⟨⟩, measured, first, -⟩
  · exact remeasure_keeps_grid.on_error unmeasured
  · by_cases sortable : CanSort options region.sheet.grid measured.span
    · obtain ⟨settled, finished, -⟩ := sort_measured exact size first sortable
      rw [failed] at finished
      cases finished
    · obtain ⟨cause, stopped, stops, kept⟩ := sort_unsortable exact size first sortable
      rw [failed] at stops
      cases stops
      exact kept

/-- Sorting puts the rows of the region, measured down to the bottom of the sheet, in the order of
the column asked for, unless there is `nan` in it. It succeeds exactly if the region can be
measured and read and the column is one of its columns; otherwise the grid stays as it is. -/
theorem sort_orders_rows (options : SortOptions) {region : Region}
    (exact : region.sheet.grid.maxRows < exactBound)
    (size : ∀ column ∈ options.column, column ≤ Size.largest) :
    (∀ after, sort options region = .ok () after →
        ∃ measured, remeasure region = .ok () measured ∧ after.span = measured.span ∧
          Measured region.sheet.grid region.span measured.span ∧
          CanSort options region.sheet.grid measured.span ∧
          ((∀ row ∈ region.sheet.grid.block measured.span,
              Grid.sortKey (options.keyColumn measured.span - measured.span.column) row ≠
                .number .nan) →
            Grid.SortedBlock region.sheet.grid after.sheet.grid measured.span
              (options.keyColumn measured.span) (options.ascending.getD false))) ∧
      (∀ measured, remeasure region = .ok () measured →
        ((∃ after, sort options region = .ok () after) ↔
          CanSort options region.sheet.grid measured.span)) ∧
      (∀ measured, remeasure region = .ok () measured →
        measured.span.lastColumn < options.keyColumn measured.span →
          ∃ error after, sort options region = .error error after) ∧
      ∀ error after, sort options region = .error error after →
        after.sheet.grid = region.sheet.grid := by
  refine ⟨?_, ?_, ?_, fun error after failed => grid_of_failed_sort exact size failed⟩
  · intro after sorted
    obtain ⟨measured, first, sortable, span, refilled⟩ := refilled_of_sort exact size sorted
    obtain ⟨fits, -, -⟩ := measured_of_remeasure first exact
    exact ⟨measured, first, span, fits, sortable, Grid.sorted_of_refilled refilled⟩
  · intro measured first
    constructor
    · rintro ⟨after, sorted⟩
      obtain ⟨other, same, sortable, -⟩ := refilled_of_sort exact size sorted
      rw [first] at same
      cases same
      exact sortable
    · intro sortable
      obtain ⟨settled, finished, -⟩ := sort_measured exact size first sortable
      exact ⟨settled, finished⟩
  · intro measured first beyond
    have unsortable : ¬CanSort options region.sheet.grid measured.span := fun sortable =>
      Nat.not_lt.2 sortable.2 beyond
    obtain ⟨error, stopped, failed, -⟩ := sort_unsortable exact size first unsortable
    exact ⟨error, stopped, failed⟩

def namedPeople : Region where
  sheet := { grid := .ofRows "people" [[.string "Bob"], [.empty], [.string "Ann"]] }
  span := ⟨1, 1, 3, 1⟩

theorem sort_people_by_name :
    ∃ after, sort { column := some 1, ascending := some true } namedPeople = .ok () after ∧
      Grid.SortedBlock namedPeople.sheet.grid after.sheet.grid ⟨1, 1, 3, 1⟩ 1 true := by
  have exact : namedPeople.sheet.grid.IsExact := ⟨by decide, by decide⟩
  have readable : namedPeople.sheet.grid.checkBounds ⟨1, 1, 3, 1⟩ = .ok () := rfl
  obtain ⟨cache, -, measures⟩ := remeasure_readable namedPeople.sheet.cache exact readable
  have first : remeasure namedPeople = .ok () ⟨⟨namedPeople.sheet.grid, cache⟩, ⟨1, 1, 3, 1⟩⟩ :=
    measures
  have size : ∀ column ∈ some 1, column ≤ Size.largest := by decide
  obtain ⟨sorts, succeeds, -⟩ :=
    sort_orders_rows { column := some 1, ascending := some true } exact.1 size
  have sortable : CanSort { column := some 1, ascending := some true } namedPeople.sheet.grid
      ⟨1, 1, 3, 1⟩ := ⟨readable, by decide⟩
  obtain ⟨after, sorted⟩ := (succeeds _ first).2 sortable
  obtain ⟨measured, again, -, -, -, ordered⟩ := sorts after sorted
  rw [first] at again
  obtain rfl := (EStateM.Result.ok.inj again).2
  have real : ∀ row ∈ namedPeople.sheet.grid.block ⟨1, 1, 3, 1⟩,
      Grid.sortKey 0 row ≠ .number .nan := by decide
  exact ⟨after, sorted, ordered real⟩

end Region

end GridStore
