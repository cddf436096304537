import GridStore.Proofs.A1.RoundTrip
import GridStore.Proofs.Grid.Cells
import GridStore.Proofs.Region.Address

/-!
Working with regions, one operation after another: measuring, appending rows and clearing rows.
What a first measurement has rounded stays as it is from then on, so a region that has been measured
once is measured again without fail as long as the grid loses no rows.
-/

set_option autoImplicit false

namespace GridStore

namespace Region

variable {region after : Region}

theorem on_sheet_ok {α : Type} {action : Action Sheet α} {value : α} {sheet : Sheet}
    (ran : action region.sheet = .ok value sheet) :
    onSheet action region = .ok value { region with sheet } := by
  rw [onSheet, ran]

theorem on_sheet_ok_iff {α : Type} {action : Action Sheet α} {value : α} :
    onSheet action region = .ok value after ↔
      ∃ sheet, action region.sheet = .ok value sheet ∧ after = { region with sheet } := by
  rw [onSheet]
  cases ran : action region.sheet with
  | ok result sheet =>
      constructor
      · intro finished
        cases finished
        exact ⟨sheet, rfl, rfl⟩
      · rintro ⟨other, same, rfl⟩
        cases same
        rfl
  | error error sheet =>
      constructor
      · intro finished
        cases finished
      · rintro ⟨other, same, -⟩
        cases same

theorem on_sheet_error_iff {α : Type} {action : Action Sheet α} {error : Error} :
    onSheet action region = .error error after ↔
      ∃ sheet, action region.sheet = .error error sheet ∧ after = { region with sheet } := by
  rw [onSheet]
  cases ran : action region.sheet with
  | ok result sheet =>
      constructor
      · intro failed
        cases failed
      · rintro ⟨other, same, -⟩
        cases same
  | error cause sheet =>
      constructor
      · intro failed
        cases failed
        exact ⟨sheet, rfl, rfl⟩
      · rintro ⟨other, same, rfl⟩
        cases same
        rfl

theorem range_ok_iff {address : Address} {sheet final : Sheet} {span : Span} :
    Sheet.range address sheet = .ok span final ↔
      ∃ cache, address.resolve sheet.grid sheet.cache = .ok span cache ∧
        final = { sheet with cache } := by
  rw [Sheet.range]
  cases resolved : address.resolve sheet.grid sheet.cache with
  | ok found cache =>
      constructor
      · intro finished
        cases finished
        exact ⟨cache, rfl, rfl⟩
      · rintro ⟨other, same, rfl⟩
        cases same
        rfl
  | error error cache =>
      constructor
      · intro finished
        cases finished
      · rintro ⟨other, same, -⟩
        cases same

theorem invalidated (region : Region) :
    (onSheet Sheet.invalidate : Action Region PUnit) region =
      .ok () { region with sheet := ⟨region.sheet.grid, .empty⟩ } := by
  apply on_sheet_ok
  rw [Sheet.invalidate, Action.modify_apply]

/-- Measuring empties the cache first, so it sees the grid as it is. -/
theorem remeasure_ok_iff :
    remeasure region = .ok () after ↔
      ∃ measured cache,
        (addressToBottom region.span.row region.span.column region.span.columns).resolve
          region.sheet.grid .empty = .ok measured cache ∧
        after = ⟨⟨region.sheet.grid, cache⟩, measured⟩ := by
  rw [remeasure, Action.bind_of_ok Action.get_apply, Action.bind_of_ok (invalidated region),
    Action.bind_ok_iff]
  constructor
  · rintro ⟨measured, middle, ranged, finished⟩
    obtain ⟨sheet, found, rfl⟩ := on_sheet_ok_iff.1 ranged
    obtain ⟨cache, resolved, rfl⟩ := range_ok_iff.1 found
    cases finished
    exact ⟨measured, cache, resolved, rfl⟩
  · rintro ⟨measured, cache, resolved, rfl⟩
    exact ⟨measured, _, on_sheet_ok_iff.2 ⟨_, range_ok_iff.2 ⟨cache, resolved, rfl⟩, rfl⟩, rfl⟩

theorem grid_of_remeasure (ran : remeasure region = .ok () after) :
    after.sheet.grid = region.sheet.grid := by
  obtain ⟨measured, cache, -, rfl⟩ := remeasure_ok_iff.1 ran
  rfl

theorem measured_of_remeasure (ran : remeasure region = .ok () after)
    (exact : region.sheet.grid.maxRows < exactBound) :
    Measured region.sheet.grid region.span after.span ∧
      after.sheet.grid = region.sheet.grid ∧ after.sheet.cache.IsFaithful region.sheet.grid := by
  obtain ⟨measured, cache, resolved, rfl⟩ := remeasure_ok_iff.1 ran
  obtain ⟨fits, faithful⟩ := measured_of_bottom (MetricCache.faithful_empty _) exact resolved
  exact ⟨fits, rfl, faithful⟩

theorem exact_of_readable {grid : Grid} {span : Span} (exact : grid.IsExact)
    (readable : grid.checkBounds span = .ok ()) :
    (1 ≤ span.row ∧ span.row ≤ grid.maxRows) ∧ (1 ≤ span.column ∧ span.column ≤ exactBound) ∧
      (1 ≤ span.columns ∧ span.columns ≤ exactBound) ∧
        span.row + span.rows - 1 ≤ grid.maxRows := by
  obtain ⟨⟨row, column, rows, columns⟩, bottom, right⟩ := Grid.inside_of_check readable
  have exactColumns : grid.columns < exactBound := exact.2
  refine ⟨⟨row, ?_⟩, ⟨column, ?_⟩, ⟨columns, ?_⟩, bottom⟩
  · show span.row ≤ grid.rows.length
    omega
  · omega
  · omega

def toBottom (grid : Grid) (span : Span) : Span :=
  { span with rows := grid.maxRows - (span.row - 1) }

/-- A measured block whose columns the grid has is the one asked for, down to the last row. -/
theorem to_bottom_of_measured {grid : Grid} {asked measured : Span}
    (fits : Measured grid asked measured) (wide : 1 ≤ asked.columns)
    (exactColumns : grid.maxColumns < exactBound)
    (right : measured.lastColumn ≤ grid.maxColumns) : measured = toBottom grid asked := by
  obtain ⟨⟨-, left, -, broad⟩, -⟩ := fits.addressable
  rw [Span.lastColumn] at right
  have column := fits.column (Or.inl (by omega))
  have columns := (fits.columns (Or.inl (by omega))).trans (Nat.max_eq_right wide)
  obtain ⟨row, -⟩ := fits.inside
  cases measured
  exact (Span.mk.injEq ..).mpr ⟨fits.row, column, fits.rows, columns⟩

theorem to_bottom_readable {grid : Grid} {span : Span} (readable : grid.checkBounds span = .ok ()) :
    grid.checkBounds (toBottom grid span) = .ok () := by
  obtain ⟨⟨row, column, rows, columns⟩, bottom, right⟩ := Grid.inside_of_check readable
  have reaches : span.row + (grid.maxRows - (span.row - 1)) - 1 ≤ grid.maxRows := by
    show span.row + (grid.rows.length - (span.row - 1)) - 1 ≤ grid.rows.length
    omega
  refine Grid.check_bounds_ok_iff.2 ⟨?_, reaches, right⟩
  simp only [Span.isDegenerate, toBottom, Bool.or_eq_false_iff, beq_eq_false_iff_ne]
  show ((span.row ≠ 0 ∧ span.column ≠ 0) ∧ grid.rows.length - (span.row - 1) ≠ 0) ∧ span.columns ≠ 0
  omega

/-- A region that begins within the rows of an exact grid is measured without fail. -/
theorem remeasure_inside {grid : Grid} {span : Span} (cache : MetricCache) (exact : grid.IsExact)
    (row : 1 ≤ span.row ∧ span.row ≤ grid.maxRows)
    (column : 1 ≤ span.column ∧ span.column ≤ exactBound)
    (columns : 1 ≤ span.columns ∧ span.columns ≤ exactBound) :
    ∃ final, final.IsFaithful grid ∧
      remeasure ⟨⟨grid, cache⟩, span⟩ = .ok () ⟨⟨grid, final⟩, toBottom grid span⟩ := by
  obtain ⟨final, kept, resolved⟩ :=
    resolve_to_bottom (MetricCache.faithful_empty grid) exact row column columns
  exact ⟨final, kept, remeasure_ok_iff.2 ⟨_, final, resolved, rfl⟩⟩

/-- A region that can be read is measured without fail. -/
theorem remeasure_readable {grid : Grid} {span : Span} (cache : MetricCache) (exact : grid.IsExact)
    (readable : grid.checkBounds span = .ok ()) :
    ∃ final, final.IsFaithful grid ∧
      remeasure ⟨⟨grid, cache⟩, span⟩ = .ok () ⟨⟨grid, final⟩, toBottom grid span⟩ := by
  obtain ⟨row, column, columns, -⟩ := exact_of_readable exact readable
  exact remeasure_inside cache exact row column columns

/-- Once a region has been measured, measuring it again cannot fail, whatever has happened to the
grid in between, as long as no rows have been taken away. -/
theorem remeasure_again (cache : MetricCache) {grid : Grid} {measured : Region}
    (first : remeasure region = .ok () measured)
    (exact : region.sheet.grid.maxRows < exactBound)
    (grown : region.sheet.grid.maxRows ≤ grid.maxRows) (exactAfter : grid.maxRows < exactBound) :
    ∃ final, final.IsFaithful grid ∧
      remeasure ⟨⟨grid, cache⟩, measured.span⟩ =
        .ok () ⟨⟨grid, final⟩, toBottom grid measured.span⟩ := by
  obtain ⟨fits, -, -⟩ := measured_of_remeasure first exact
  obtain ⟨span, held, resolved, rfl⟩ := remeasure_ok_iff.1 first
  obtain ⟨-, column, columns, -⟩ := Address.rounded_of_numbers resolved
  have inside : 1 ≤ span.row ∧ span.row ≤ grid.maxRows := by
    rw [fits.row]
    exact ⟨fits.inside.1, Nat.le_trans fits.inside.2 grown⟩
  obtain ⟨⟨-, left, -, width⟩, -, right⟩ := fits.addressable
  obtain ⟨final, faithful, again⟩ := resolve_kept_to_bottom (MetricCache.faithful_empty grid)
    exactAfter inside column.kept columns.kept ⟨left, width⟩ right
  exact ⟨final, faithful, remeasure_ok_iff.2 ⟨_, final, again, rfl⟩⟩

theorem change_ok_iff {update : Grid → Except GridError Grid} {sheet final : Sheet} :
    Sheet.change update sheet = .ok () final ↔
      ∃ grid, update sheet.grid = .ok grid ∧ final = ⟨grid, .empty⟩ := by
  have emptied : Sheet.invalidate sheet = .ok () ⟨sheet.grid, .empty⟩ := by
    rw [Sheet.invalidate, Action.modify_apply]
  rw [Sheet.change, Action.bind_of_ok Action.get_apply, Action.bind_of_ok emptied]
  cases updated : update sheet.grid with
  | ok grid => simp [eq_comm]
  | error cause => simp

theorem change_error {update : Grid → Except GridError Grid} {cause : GridError} {sheet : Sheet}
    (refused : update sheet.grid = .error cause) :
    Sheet.change update sheet = .error (.grid cause) ⟨sheet.grid, .empty⟩ := by
  rw [Sheet.change, Action.bind_of_ok Action.get_apply, Sheet.invalidate,
    Action.bind_of_ok (Action.modify_apply _), refused]
  rfl

theorem change_refused {update : Grid → Except GridError Grid} {cause : GridError}
    (refused : update region.sheet.grid = .error cause) :
    (onSheet (Sheet.change update) : Action Region PUnit) region =
      .error (.grid cause) { region with sheet := ⟨region.sheet.grid, .empty⟩ } := by
  rw [onSheet, change_error refused]

theorem append_ok_iff {head : Row} {rest : List Row} :
    append (head :: rest) region = .ok () after ↔
      ∃ measured target cache grid, remeasure region = .ok () measured ∧
        head.length ≤ measured.span.columns ∧ (∀ row ∈ head :: rest, row.length = head.length) ∧
        (appendAddress measured.span.column (head :: rest).length head.length).resolve
          measured.sheet.grid measured.sheet.cache = .ok target cache ∧
        measured.sheet.grid.write target (head :: rest) = .ok grid ∧
        remeasure ⟨⟨grid, .empty⟩, measured.span⟩ = .ok () after := by
  have even : (∀ row ∈ head :: rest, row.length = head.length) ↔
      ¬((head :: rest).any fun row => row.length != head.length) = true := by
    simp only [List.any_eq_true, bne_iff_ne, not_exists, not_and, not_not]
  rw [append, Action.bind_ok_iff]
  constructor
  · rintro ⟨nothing, measured, first, ran⟩
    rw [Action.bind_of_ok Action.get_apply] at ran
    obtain ⟨wideEnough, ran⟩ := Action.guard_ok_iff.1 ran
    obtain ⟨same, ran⟩ := Action.guard_ok_iff.1 ran
    obtain ⟨target, aimed, found, ran⟩ := Action.bind_ok_iff.1 ran
    obtain ⟨sheet, ranged, rfl⟩ := on_sheet_ok_iff.1 found
    obtain ⟨cache, resolved, rfl⟩ := range_ok_iff.1 ranged
    obtain ⟨nothing, written, wrote, last⟩ := Action.bind_ok_iff.1 ran
    obtain ⟨sheet, changed, rfl⟩ := on_sheet_ok_iff.1 wrote
    obtain ⟨grid, filled, rfl⟩ := change_ok_iff.1 changed
    exact ⟨measured, target, cache, grid, first, Nat.le_of_not_lt wideEnough, even.2 same, resolved,
      filled, last⟩
  · rintro ⟨measured, target, cache, grid, first, wideEnough, same, resolved, filled, last⟩
    refine ⟨(), measured, first, ?_⟩
    rw [Action.bind_of_ok Action.get_apply]
    apply Action.guard_ok_iff.2
    refine ⟨Nat.not_lt.2 wideEnough, Action.guard_ok_iff.2 ⟨even.1 same, ?_⟩⟩
    have aimed : onSheet (Sheet.range (appendAddress measured.span.column (head :: rest).length
        head.length)) measured = .ok target ⟨⟨measured.sheet.grid, cache⟩, measured.span⟩ :=
      on_sheet_ok (range_ok_iff.2 ⟨cache, resolved, rfl⟩)
    have stored : (onSheet (Sheet.setValues target (head :: rest)) : Action Region PUnit)
        ⟨⟨measured.sheet.grid, cache⟩, measured.span⟩ = .ok () ⟨⟨grid, .empty⟩, measured.span⟩ :=
      on_sheet_ok (change_ok_iff.2 ⟨grid, filled, rfl⟩)
    exact (Action.bind_of_ok aimed).trans ((Action.bind_of_ok stored).trans last)

/-- What a successful append has gone through: the region it measured, the block of the new rows,
and the grid right after they were written. -/
structure Appended (before after : Region) (rows : List Row) (measured target : Span)
    (grid : Grid) : Prop where
  fits : Measured before.sheet.grid before.span measured
  row : target.row = before.sheet.grid.lastRow + 1
  column : target.column < exactBound → target.column = measured.column
  addressable : target.Addressable
  narrow : ∀ row ∈ rows, row.length ≤ measured.columns
  wrote : before.sheet.grid.write target rows = .ok grid
  remeasured : remeasure ⟨⟨grid, .empty⟩, measured⟩ = .ok () after

theorem appended_of_append {rows : List Row} (exact : region.sheet.grid.maxRows < exactBound)
    (ran : append rows region = .ok () after) :
    ∃ measured target grid, Appended region after rows measured target grid := by
  cases rows with
  | nil => cases ran
  | cons head rest =>
      obtain ⟨middle, target, cache, grid, first, wideEnough, even, resolved, filled, last⟩ :=
        append_ok_iff.1 ran
      obtain ⟨fits, sameGrid, faithful⟩ := measured_of_remeasure first exact
      rw [sameGrid] at resolved filled
      have lastRow : region.sheet.grid.lastRow < exactBound :=
        Nat.lt_of_le_of_lt Grid.last_row_le_max_rows exact
      obtain ⟨row, column, addressable⟩ :=
        target_below_content faithful lastRow fits.addressable.1.2.1 resolved
      refine ⟨middle.span, target, grid, fits, row, column, addressable, ?_, filled, last⟩
      intro row member
      rw [even row member]
      exact wideEnough

/-- New rows begin at the first column of the region, which the grid reaches afterwards. -/
theorem column_of_appended {rows : List Row} {measured target : Span} {grid : Grid}
    (appended : Appended region after rows measured target grid)
    (exactAfter : after.sheet.grid.IsExact) :
    target.column = region.span.column ∧ measured.column = region.span.column ∧
      measured.column < exactBound := by
  have wrote := Grid.written_of_write
    ⟨appended.addressable.1.1, appended.addressable.1.2.1⟩ appended.wrote
  have sameGrid : after.sheet.grid = grid := grid_of_remeasure appended.remeasured
  have small : target.column < exactBound := by
    have wider := wrote.maxColumns
    have bound : grid.maxColumns < exactBound := sameGrid ▸ exactAfter.2
    have positive := appended.addressable.1.2.2.2
    rw [Span.lastColumn] at wider
    omega
  have same := appended.column small
  have column : measured.column = region.span.column :=
    appended.fits.column (Or.inl (same ▸ small))
  exact ⟨same.trans column, column, same ▸ small⟩

theorem exact_of_written {before after : Grid} {span : Span} {values : List Row}
    (wrote : Grid.Written before after span values) (exact : before.IsExact)
    (bottom : span.lastRow < exactBound) (right : span.lastColumn < exactBound) :
    after.IsExact := by
  constructor
  · rw [wrote.maxRows]
    exact Nat.max_lt.2 ⟨exact.1, bottom⟩
  · rw [wrote.maxColumns]
    exact Nat.max_lt.2 ⟨exact.2, right⟩

theorem readable_of_written {before after : Grid} {span target : Span} {values : List Row}
    (wrote : Grid.Written before after target values)
    (readable : before.checkBounds span = .ok ()) : after.checkBounds span = .ok () := by
  obtain ⟨proper, bottom, right⟩ := Grid.check_bounds_ok_iff.1 readable
  apply Grid.check_bounds_ok_iff.2
  rw [wrote.maxRows, wrote.maxColumns]
  exact ⟨proper, Nat.le_trans bottom (Nat.le_max_left _ _),
    Nat.le_trans right (Nat.le_max_left _ _)⟩

/-- Rows that fit a region are written below all content. What is left of the append then is to
measure the region again. -/
theorem write_below_content {rows : List Row} {width : Nat} {cache : MetricCache}
    (first : remeasure region =
      .ok () ⟨⟨region.sheet.grid, cache⟩, toBottom region.sheet.grid region.span⟩)
    (faithful : cache.IsFaithful region.sheet.grid)
    (lastRow : region.sheet.grid.lastRow < exactBound)
    (column : 1 ≤ region.span.column ∧ region.span.column ≤ exactBound)
    (nonempty : rows ≠ []) (few : rows.length ≤ exactBound)
    (wide : 1 ≤ width ∧ width ≤ exactBound) (narrow : width ≤ region.span.columns)
    (widths : ∀ row ∈ rows, row.length = width) :
    ∃ grid, Grid.Written region.sheet.grid grid
        ⟨region.sheet.grid.lastRow + 1, region.span.column, rows.length, width⟩ rows ∧
      ∀ after, remeasure ⟨⟨grid, .empty⟩, toBottom region.sheet.grid region.span⟩ = .ok () after →
        append rows region = .ok () after := by
  obtain ⟨head, rest, rfl⟩ := List.exists_cons_of_ne_nil nonempty
  obtain rfl : head.length = width := widths head List.mem_cons_self
  obtain ⟨cache', resolved⟩ :=
    resolve_below_content faithful lastRow column ⟨Nat.succ_pos _, few⟩ wide
  have shaped : Grid.hasShape (head :: rest) ⟨region.sheet.grid.lastRow + 1, region.span.column,
      (head :: rest).length, head.length⟩ = true := by
    simp only [Grid.hasShape, Bool.and_eq_true, beq_iff_eq, List.all_eq_true]
    exact ⟨trivial, widths⟩
  obtain ⟨grid, filled⟩ := Grid.write_shaped region.sheet.grid shaped
  refine ⟨grid, Grid.written_of_write ⟨Nat.succ_pos _, column.1⟩ filled, fun after last => ?_⟩
  exact append_ok_iff.2 ⟨_, _, cache', grid, first, narrow, widths, resolved, filled, last⟩

/-- Rows that fit a region that can be read are appended, as long as the grid stays exact. -/
theorem append_inside {grid : Grid} {span : Span} {rows : List Row} {width : Nat}
    (cache : MetricCache) (exact : grid.IsExact) (readable : grid.checkBounds span = .ok ())
    (nonempty : rows ≠ []) (widths : ∀ row ∈ rows, row.length = width)
    (fits : 1 ≤ width ∧ width ≤ span.columns) (room : grid.lastRow + rows.length < exactBound) :
    ∃ after, append rows ⟨⟨grid, cache⟩, span⟩ = .ok () after ∧ after.sheet.grid.IsExact := by
  obtain ⟨measuredCache, faithful, first⟩ := remeasure_readable cache exact readable
  obtain ⟨-, column, columns, -⟩ := exact_of_readable exact readable
  have lastRow : grid.lastRow < exactBound := Nat.lt_of_le_of_lt (Nat.le_add_right _ _) room
  have few : rows.length ≤ exactBound :=
    Nat.le_of_lt (Nat.lt_of_le_of_lt (Nat.le_add_left _ _) room)
  obtain ⟨grid', wrote, appends⟩ := write_below_content first faithful lastRow column nonempty few
    ⟨fits.1, Nat.le_trans fits.2 columns.2⟩ fits.2 widths
  have exactAfter : grid'.IsExact := by
    apply exact_of_written wrote exact
    · rw [Span.lastRow]
      simp only
      omega
    · obtain ⟨-, -, right⟩ := Grid.inside_of_check readable
      have exactColumns : grid.columns < exactBound := exact.2
      rw [Span.lastColumn]
      simp only
      omega
  obtain ⟨final, -, last⟩ := remeasure_readable .empty exactAfter
    (readable_of_written wrote (to_bottom_readable readable))
  exact ⟨_, appends _ last, exactAfter⟩

section Clearing

theorem row_addresses {span : Span} {sheet : Sheet} {rows : List Nat} {block : Nat → Span}
    (resolves : ∀ row ∈ rows, Sheet.range (rowAddress span row) sheet = .ok (block row) sheet) :
    (rows.mapM fun row => do
      return (← onSheet (Sheet.range (rowAddress span row))).a1 : Action Region (List String))
        ⟨sheet, span⟩ = .ok (rows.map fun row => (block row).a1) ⟨sheet, span⟩ := by
  induction rows with
  | nil => rfl
  | cons row rest induction =>
      have here : onSheet (Sheet.range (rowAddress span row)) ⟨sheet, span⟩ =
          .ok (block row) ⟨sheet, span⟩ := on_sheet_ok (resolves row List.mem_cons_self)
      have there := induction fun row member => resolves row (List.mem_cons_of_mem _ member)
      rw [List.mapM_cons, bind_assoc, Action.bind_of_ok here, pure_bind, Action.bind_of_ok there]
      rfl

theorem clear_addresses {grid : Grid} {spans : List Span}
    (inside : ∀ span ∈ spans, span.Addressable ∧ grid.checkBounds span = .ok ()) :
    grid.clear (spans.map Span.a1) = .ok (grid.blankBlocks spans) := by
  have found : (spans.map Span.a1).mapM grid.blockOfAddress = .ok spans := by
    induction spans with
    | nil => rfl
    | cons span rest induction =>
        obtain ⟨fits, bounded⟩ := inside span List.mem_cons_self
        have here : grid.blockOfAddress span.a1 = .ok span := by
          rw [Grid.blockOfAddress, Span.of_a1_a1 fits]
          simp only [bounded]
          rfl
        have there := induction fun span member => inside span (List.mem_cons_of_mem _ member)
        rw [List.map_cons, List.mapM_cons, here]
        simp only [there]
        rfl
  rw [Grid.clear, found]
  rfl

theorem blank_no_blocks (grid : Grid) : grid.blankBlocks [] = grid := by
  have unchanged : ∀ cells : Row, cells.mapIdx (fun _ cell => cell) = cells := by
    intro cells
    apply List.ext_getElem?
    intro column
    simp
  cases grid
  simp only [Grid.blankBlocks, Grid.mapCells, List.any_nil, Bool.false_eq_true, if_false, unchanged,
    Grid.mk.injEq, true_and]
  apply List.ext_getElem?
  intro row
  simp

end Clearing

end Region

end GridStore
