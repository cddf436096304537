import GridStore.Proofs.Grid.Spared
import GridStore.Proofs.Region.Failure

/-!
Regions that keep their corner and their width. Whatever is done with such a region, in whatever
way it fails, cells above the first row of the region and beside its columns stay as they are,
provided that some content there keeps new rows from being put above the region.

Sheets of any extent are covered: only the first row of the region has to be exact.
-/

set_option autoImplicit false

namespace GridStore

structure Span.Follows (span block : Span) : Prop where
  row : span.row = block.row
  column : span.column = block.column
  columns : span.columns = block.columns
  addressable : span.Addressable

theorem Span.under_of_follows {span block : Span} (follows : span.Follows block) :
    span.Under block :=
  ⟨Nat.le_of_eq follows.row.symm, Nat.le_of_eq follows.column.symm,
    Nat.le_of_eq (by rw [follows.column, follows.columns])⟩

theorem Span.Follows.max_columns {span block : Span} (follows : span.Follows block) :
    max 1 span.columns = block.columns := by
  rw [Nat.max_eq_right follows.addressable.1.2.2.2, follows.columns]

/-- A block whose corner and width measuring does not change, and whose first row is exact. -/
structure Span.IsFixed (block : Span) : Prop where
  small : block.row ≤ exactBound
  row : Address.IsKept block.row
  column : Address.IsKept block.column
  columns : Address.IsKept block.columns

/-- A region with the corner and the width of a block, and some content that the block spares and
that keeps new rows from being put above the block. -/
structure Region.Attached (block : Span) (region : Region) : Prop where
  follows : region.span.Follows block
  content : ∃ row column cell, block.row ≤ row + 1 ∧ block.Spares row column ∧
    region.sheet.grid.cell? row column = some cell ∧ cell.isBlank = false

namespace Region

variable {block : Span} {region measured after : Region}

theorem attached_of_spared (attached : Attached block region)
    (follows : after.span.Follows block)
    (spared : Grid.Spared block region.sheet.grid after.sheet.grid) : Attached block after := by
  obtain ⟨row, column, cell, low, spares, held, content⟩ := attached.content
  exact ⟨follows, row, column, cell, low, spares, spared.kept row column cell spares held, content⟩

def sparingFrame (block : Span) : Frame Region where
  related before after := Attached block before →
    Attached block after ∧ Grid.Spared block before.sheet.grid after.sheet.grid
  refl region attached := ⟨attached, Grid.spared_of_same block rfl⟩
  trans first second attached := by
    obtain ⟨between, early⟩ := first attached
    obtain ⟨after, late⟩ := second between
    exact ⟨after, Grid.spared_trans early late⟩

theorem related_of_span (sameSpan : after.span = region.span)
    (spared : Attached block region → Grid.Spared block region.sheet.grid after.sheet.grid) :
    (sparingFrame block).related region after := fun attached =>
  ⟨attached_of_spared attached (sameSpan ▸ attached.follows) (spared attached), spared attached⟩

theorem related_of_same (sameSpan : after.span = region.span)
    (sameGrid : after.sheet.grid = region.sheet.grid) :
    (sparingFrame block).related region after :=
  related_of_span sameSpan fun _ => Grid.spared_of_same block sameGrid

theorem keeps_spared {α : Type} {action : Action Region α} (keepsGrid : gridFrame.Keeps action)
    (keepsSpan : spanFrame.Keeps action) : (sparingFrame block).Keeps action where
  on_ok ran := related_of_same (keepsSpan.on_ok ran) (keepsGrid.on_ok ran)
  on_error failed := related_of_same (keepsSpan.on_error failed) (keepsGrid.on_error failed)

theorem failed_remeasure_keeps_span : spanFrame.KeepsOnFailure remeasure region := by
  unfold remeasure
  refine Frame.keeps_on_failure_bind Frame.keeps_get fun _ _ _ => ?_
  refine Frame.keeps_on_failure_bind (on_sheet_keeps_span _) fun _ _ _ => ?_
  refine Frame.keeps_on_failure_bind (on_sheet_keeps_span _) fun _ _ _ => ?_
  constructor
  intro error final failed
  cases failed

theorem follows_of_remeasure (fixed : block.IsFixed) (follows : region.span.Follows block)
    (first : remeasure region = .ok () measured) : measured.span.Follows block := by
  obtain ⟨span, cache, resolved, rfl⟩ := remeasure_ok_iff.1 first
  obtain ⟨row, column, columns, addressable⟩ := Address.rounded_of_numbers resolved
  rw [follows.row] at row
  rw [follows.column] at column
  rw [follows.max_columns] at columns
  exact ⟨row.eq_of_kept fixed.row, column.eq_of_kept fixed.column,
    columns.eq_of_kept fixed.columns, addressable⟩

theorem remeasure_spares (fixed : block.IsFixed) : (sparingFrame block).Keeps remeasure where
  on_ok ran attached := by
    have spared := Grid.spared_of_same block (grid_of_remeasure ran)
    exact ⟨attached_of_spared attached (follows_of_remeasure fixed attached.follows ran) spared,
      spared⟩
  on_error failed := related_of_same (failed_remeasure_keeps_span.on_error failed)
    (remeasure_keeps_grid.on_error failed)

theorem change_spares {update : Grid → Except GridError Grid}
    (spares : ∀ grid, update region.sheet.grid = .ok grid →
      Grid.Spared block region.sheet.grid grid) :
    (sparingFrame block).KeepsFrom (onSheet (Sheet.change update) : Action Region PUnit)
      region where
  on_ok ran := by
    obtain ⟨sheet, changed, rfl⟩ := on_sheet_ok_iff.1 ran
    obtain ⟨grid, updated, rfl⟩ := change_ok_iff.1 changed
    exact related_of_span rfl fun _ => spares grid updated
  on_error failed := by
    cases updated : update region.sheet.grid with
    | ok grid =>
        have done : (onSheet (Sheet.change update) : Action Region PUnit) region =
            .ok () { region with sheet := ⟨grid, .empty⟩ } :=
          on_sheet_ok (change_ok_iff.2 ⟨grid, updated, rfl⟩)
        rw [done] at failed
        cases failed
    | error cause =>
        rw [change_refused updated] at failed
        cases failed
        exact related_of_same rfl rfl

theorem sort_spares (fixed : block.IsFixed) (attached : Attached block region)
    (options : SortOptions) : (sparingFrame block).KeepsFrom (sort options) region := by
  unfold sort
  refine Frame.keeps_from_bind (Frame.keeps_from (remeasure_spares fixed)) fun _ measured first => ?_
  obtain ⟨still, -⟩ := (remeasure_spares fixed).on_ok first attached
  refine Frame.keeps_from_bind (Frame.keeps_from Frame.keeps_get) fun _ _ held => ?_
  cases held
  refine Frame.keeps_from_bind (change_spares fun grid sorted => ?_) fun _ _ _ =>
    Frame.keeps_from (remeasure_spares fixed)
  exact Grid.spared_of_sort (Span.under_of_follows still.follows) sorted

theorem range_spares (address : Address) :
    (sparingFrame block).Keeps (onSheet (Sheet.range address)) :=
  keeps_spared (range_keeps_grid address) (on_sheet_keeps_span _)

theorem range_cases {address : Address} {found : Span} {middle : Region}
    (ranged : onSheet (Sheet.range address) region = .ok found middle) :
    middle.span = region.span ∧ middle.sheet.grid = region.sheet.grid ∧
      ∃ cache, address.resolve region.sheet.grid region.sheet.cache = .ok found cache := by
  obtain ⟨sheet, found, rfl⟩ := on_sheet_ok_iff.1 ranged
  obtain ⟨cache, resolved, rfl⟩ := range_ok_iff.1 found
  exact ⟨rfl, rfl, cache, resolved⟩

theorem faithful_of_remeasure (first : remeasure region = .ok () measured) :
    measured.sheet.cache.IsFaithful measured.sheet.grid := by
  obtain ⟨span, cache, resolved, rfl⟩ := remeasure_ok_iff.1 first
  exact (height_of_bottom (MetricCache.faithful_empty _) resolved).1

theorem low_of_attached (attached : Attached block region) :
    block.row ≤ region.sheet.grid.lastRow + 1 := by
  obtain ⟨row, column, cell, low, -, held, content⟩ := attached.content
  have bottom := Grid.row_le_last_row held content
  omega

theorem append_spares (fixed : block.IsFixed) (attached : Attached block region)
    (rows : List Row) : (sparingFrame block).KeepsFrom (append rows) region := by
  cases rows with
  | nil => exact Frame.keeps_from (Frame.keeps_throw _)
  | cons head rest =>
      unfold append
      refine Frame.keeps_from_bind (Frame.keeps_from (remeasure_spares fixed))
        fun _ measured first => ?_
      obtain ⟨still, -⟩ := (remeasure_spares fixed).on_ok first attached
      refine Frame.keeps_from_bind (Frame.keeps_from Frame.keeps_get) fun _ _ held => ?_
      cases held
      refine Frame.keeps_from_guard fun wideEnough => Frame.keeps_from_guard fun _ => ?_
      refine Frame.keeps_from_bind (Frame.keeps_from (range_spares _)) fun target middle aimed => ?_
      refine Frame.keeps_from_bind (change_spares fun grid wrote => ?_) fun _ _ _ =>
        Frame.keeps_from (remeasure_spares fixed)
      obtain ⟨-, sameGrid, cache, resolved⟩ := range_cases aimed
      have follows := still.follows
      obtain ⟨low, column, addressable⟩ := target_at_least (faithful_of_remeasure first)
        follows.addressable.1.2.1 fixed.small (low_of_attached still) resolved
      rw [follows.column] at column
      have sameColumn := column.eq_of_kept fixed.column
      have corner : 1 ≤ target.row ∧ 1 ≤ target.column := ⟨addressable.1.1, addressable.1.2.1⟩
      -- The width of the block of new rows may have been rounded, but then nothing is written.
      have shaped := (Grid.written_of_write corner wrote).shaped
      simp only [Grid.hasShape, Bool.and_eq_true, List.all_eq_true, beq_iff_eq] at shaped
      have width : head.length = target.columns := shaped.2 head List.mem_cons_self
      refine Grid.spared_of_write ⟨low, Nat.le_of_eq sameColumn.symm, ?_⟩ corner wrote
      rw [sameColumn, ← width, ← follows.columns]
      omega

theorem row_under {span found : Span} {row : Nat} {cache : MetricCache} (fixed : block.IsFixed)
    (follows : span.Follows block) (inside : 1 ≤ row ∧ row + block.row ≤ Size.largest)
    (resolved : (rowAddress span row).resolve region.sheet.grid region.sheet.cache =
      .ok found cache) : found.Addressable ∧ found.Under block := by
  obtain ⟨low, column, columns, addressable⟩ := Address.rounded_of_numbers resolved
  have bound : Size.bound = Size.largest + 1 := rfl
  rw [follows.row, Size.wrapped, Nat.mod_eq_of_lt (by omega)] at low
  rw [follows.column] at column
  rw [follows.max_columns] at columns
  refine ⟨addressable, low.at_least fixed.small (by omega), ?_, ?_⟩
  · exact Nat.le_of_eq (column.eq_of_kept fixed.column).symm
  · rw [column.eq_of_kept fixed.column, columns.eq_of_kept fixed.columns]

theorem row_addresses_under {span : Span} {rows : List Nat} {addresses : List String}
    {middle : Region} (fixed : block.IsFixed) (follows : span.Follows block)
    (inside : ∀ row ∈ rows, 1 ≤ row ∧ row + block.row ≤ Size.largest)
    (listed : (rows.mapM fun row => do
      return (← onSheet (Sheet.range (rowAddress span row))).a1 : Action Region (List String))
        region = .ok addresses middle) :
    ∃ spans : List Span, addresses = spans.map Span.a1 ∧
      ∀ found ∈ spans, found.Addressable ∧ found.Under block := by
  induction rows generalizing region addresses with
  | nil =>
      cases listed
      exact ⟨[], rfl, List.forall_mem_nil _⟩
  | cons row rest induction =>
      obtain ⟨here, later⟩ := List.forall_mem_cons.1 inside
      rw [List.mapM_cons, bind_assoc] at listed
      obtain ⟨found, between, ranged, listed⟩ := Action.bind_ok_iff.1 listed
      rw [pure_bind] at listed
      obtain ⟨others, last, there, finished⟩ := Action.bind_ok_iff.1 listed
      cases finished
      obtain ⟨-, -, cache, resolved⟩ := range_cases ranged
      obtain ⟨spans, rfl, under⟩ := induction later there
      exact ⟨found :: spans, rfl, List.forall_mem_cons.2
        ⟨row_under fixed follows here resolved, under⟩⟩

theorem clear_rows_spares (fixed : block.IsFixed) (attached : Attached block region)
    {rows : List Nat} (inside : ∀ row ∈ rows, 1 ≤ row ∧ row + block.row ≤ Size.largest) :
    (sparingFrame block).KeepsFrom (clearRows rows) region := by
  unfold clearRows
  by_cases nothing : rows.isEmpty = true
  · rw [if_pos nothing]
    exact Frame.keeps_from (Frame.keeps_pure _)
  · rw [if_neg nothing]
    refine Frame.keeps_from_bind (Frame.keeps_from (remeasure_spares fixed))
      fun _ measured first => ?_
    obtain ⟨still, -⟩ := (remeasure_spares fixed).on_ok first attached
    refine Frame.keeps_from_bind (Frame.keeps_from Frame.keeps_get) fun _ _ held => ?_
    cases held
    refine Frame.keeps_from_bind (Frame.keeps_from (Frame.keeps_map_m
      (fun _ => Frame.keeps_bind (range_spares _) fun _ => Frame.keeps_pure _) rows))
      fun addresses middle listed => ?_
    obtain ⟨spans, rfl, under⟩ := row_addresses_under fixed still.follows inside listed
    refine Frame.keeps_from_bind (change_spares fun grid cleared => ?_) fun _ _ _ =>
      Frame.keeps_from (remeasure_spares fixed)
    exact Grid.spared_of_clear (fun span member => (under span member).1)
      (fun span member => (under span member).2) cleared

end Region

end GridStore
