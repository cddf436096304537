import GridStore.Proofs.Region.Frame

/-!
Anchored regions: they keep the corner and the width of a block, and they lie within their grid.

Grids never shrink, and whatever lies within a grid lies within every grid that it grows to, so
nothing that is done with a region, or with its grid behind its back, loosens it.
-/

set_option autoImplicit false

namespace GridStore

structure Grid.GrowsTo (before after : Grid) : Prop where
  rows : before.maxRows ≤ after.maxRows
  columns : before.maxColumns ≤ after.maxColumns

namespace Grid.GrowsTo

variable {first second third grid after : Grid} {span : Span}

theorem refl (grid : Grid) : GrowsTo grid grid := ⟨Nat.le_refl _, Nat.le_refl _⟩

theorem of_same (same : after = grid) : GrowsTo grid after := by
  rw [same]
  exact refl grid

theorem trans (early : GrowsTo first second) (late : GrowsTo second third) : GrowsTo first third :=
  ⟨Nat.le_trans early.rows late.rows, Nat.le_trans early.columns late.columns⟩

theorem exact (grows : GrowsTo grid after) (exactAfter : after.IsExact) : grid.IsExact :=
  ⟨Nat.lt_of_le_of_lt grows.rows exactAfter.1, Nat.lt_of_le_of_lt grows.columns exactAfter.2⟩

theorem readable (grows : GrowsTo grid after) (readable : grid.checkBounds span = .ok ()) :
    after.checkBounds span = .ok () := by
  obtain ⟨proper, bottom, right⟩ := Grid.check_bounds_ok_iff.1 readable
  apply Grid.check_bounds_ok_iff.2
  exact ⟨proper, Nat.le_trans bottom grows.rows, Nat.le_trans right grows.columns⟩

end Grid.GrowsTo

def Grid.growingFrame : Frame Grid where
  related := Grid.GrowsTo
  refl := .refl
  trans := .trans

namespace GridChange

theorem grows {change : GridChange} {grid after : Grid}
    (changed : change.apply grid = .ok after) : grid.GrowsTo after :=
  ⟨(extent_le changed).1, (extent_le changed).2⟩

end GridChange

namespace Region

/-- The region has the corner and the width of a block, and lies within its grid. -/
structure Anchored (block : Span) (region : Region) : Prop where
  row : region.span.row = block.row
  column : region.span.column = block.column
  columns : region.span.columns = block.columns
  readable : region.sheet.grid.checkBounds region.span = .ok ()

variable {block : Span} {region after : Region}

def anchoringFrame (block : Span) : Frame Region where
  related before after := before.sheet.grid.GrowsTo after.sheet.grid ∧
    (after.sheet.grid.IsExact → before.Anchored block → after.Anchored block)
  refl region := ⟨.refl _, fun _ anchored => anchored⟩
  trans := by
    intro first second third early late
    refine ⟨early.1.trans late.1, fun exact anchored => ?_⟩
    exact late.2 exact (early.2 (late.1.exact exact) anchored)

theorem anchored_of_grown (anchored : region.Anchored block) (sameSpan : after.span = region.span)
    (grows : region.sheet.grid.GrowsTo after.sheet.grid) : after.Anchored block := by
  constructor
  · rw [sameSpan, anchored.row]
  · rw [sameSpan, anchored.column]
  · rw [sameSpan, anchored.columns]
  · rw [sameSpan]
    exact grows.readable anchored.readable

theorem related_of_grown (sameSpan : after.span = region.span)
    (grows : region.sheet.grid.GrowsTo after.sheet.grid) :
    (anchoringFrame block).related region after :=
  ⟨grows, fun _ anchored => anchored_of_grown anchored sameSpan grows⟩

theorem keeps_anchored {α : Type} {action : Action Region α} (keepsGrid : gridFrame.Keeps action)
    (keepsSpan : spanFrame.Keeps action) : (anchoringFrame block).Keeps action where
  on_ok ran := related_of_grown (keepsSpan.on_ok ran) (.of_same (keepsGrid.on_ok ran))
  on_error failed :=
    related_of_grown (keepsSpan.on_error failed) (.of_same (keepsGrid.on_error failed))

theorem anchored_of_remeasure (exact : region.sheet.grid.IsExact) (anchored : region.Anchored block)
    (ran : remeasure region = .ok () after) : after.Anchored block := by
  obtain ⟨cache, -, measures⟩ := remeasure_readable region.sheet.cache exact anchored.readable
  obtain rfl := (EStateM.Result.ok.inj (ran.symm.trans measures)).2
  exact ⟨anchored.row, anchored.column, anchored.columns, to_bottom_readable anchored.readable⟩

theorem remeasure_anchors : (anchoringFrame block).Keeps remeasure where
  on_ok := by
    intro region nothing after ran
    have sameGrid := grid_of_remeasure ran
    refine ⟨.of_same sameGrid, fun exact anchored => ?_⟩
    exact anchored_of_remeasure (sameGrid ▸ exact) anchored ran
  on_error := by
    intro region error after failed
    exact related_of_grown (failed_remeasure_keeps_span.on_error failed)
      (.of_same (remeasure_keeps_grid.on_error failed))

theorem change_anchors (change : GridChange) :
    (anchoringFrame block).Keeps (onSheet (Sheet.change change.apply) : Action Region PUnit) where
  on_ok := by
    intro region nothing after ran
    obtain ⟨sheet, changed, rfl⟩ := on_sheet_ok_iff.1 ran
    obtain ⟨grid, updated, rfl⟩ := change_ok_iff.1 changed
    exact related_of_grown rfl (GridChange.grows updated)
  on_error := by
    intro region error after failed
    cases updated : change.apply region.sheet.grid with
    | ok grid =>
        have done : (onSheet (Sheet.change change.apply) : Action Region PUnit) region =
            .ok () { region with sheet := ⟨grid, .empty⟩ } :=
          on_sheet_ok (change_ok_iff.2 ⟨grid, updated, rfl⟩)
        rw [done] at failed
        cases failed
    | error cause =>
        rw [change_refused updated] at failed
        cases failed
        exact related_of_grown rfl (.refl _)

theorem range_anchors (address : Address) :
    (anchoringFrame block).Keeps (onSheet (Sheet.range address)) :=
  keeps_anchored (range_keeps_grid address) (on_sheet_keeps_span _)

theorem anchoring_steps : (anchoringFrame block).KeepsSteps where
  remeasures := remeasure_anchors
  ranges := range_anchors
  changes := change_anchors

theorem serve_anchors (repository : Repository) (request : Request) (region : Region) :
    (anchoringFrame block).related region ((request.serve repository).final region) :=
  anchoring_steps.serve repository request region

def AtBottom (region : Region) : Prop := region.span.lastRow = region.sheet.grid.maxRows

/-- However a region has got there: once it has been measured it reaches the bottom. -/
theorem at_bottom_of_remeasure (ran : remeasure region = .ok () after)
    (exact : after.sheet.grid.IsExact) : after.AtBottom := by
  have sameGrid := grid_of_remeasure ran
  rw [sameGrid] at exact
  obtain ⟨fits, -, -⟩ := measured_of_remeasure ran exact.1
  obtain ⟨top, bottom⟩ := fits.inside
  rw [AtBottom, Span.lastRow, fits.row, fits.rows, sameGrid]
  omega

theorem at_bottom_of_append {rows : List Row} (ran : append rows region = .ok () after)
    (exact : after.sheet.grid.IsExact) : after.AtBottom := by
  cases rows with
  | nil => cases ran
  | cons head rest =>
      obtain ⟨measured, target, cache, grid, -, -, -, -, -, last⟩ := append_ok_iff.1 ran
      exact at_bottom_of_remeasure last exact

theorem at_bottom_of_sort {options : SortOptions} (ran : sort options region = .ok () after)
    (exact : after.sheet.grid.IsExact) : after.AtBottom := by
  obtain ⟨⟨⟩, measured, first, -⟩ := Action.bind_ok_iff.1 ran
  rw [sort_after_measuring first] at ran
  obtain ⟨⟨⟩, sorted, -, last⟩ := Action.bind_ok_iff.1 ran
  exact at_bottom_of_remeasure last exact

theorem at_bottom_of_clear_rows {rows : List Nat} (nonempty : rows ≠ [])
    (ran : clearRows rows region = .ok () after) (exact : after.sheet.grid.IsExact) :
    after.AtBottom := by
  rw [clearRows, if_neg (by simpa using nonempty)] at ran
  obtain ⟨⟨⟩, measured, -, ran⟩ := Action.bind_ok_iff.1 ran
  obtain ⟨held, same, -, ran⟩ := Action.bind_ok_iff.1 ran
  obtain ⟨addresses, listed, -, ran⟩ := Action.bind_ok_iff.1 ran
  obtain ⟨⟨⟩, cleared, -, last⟩ := Action.bind_ok_iff.1 ran
  exact at_bottom_of_remeasure last exact

end Region

namespace Repository

variable {repository : Repository} {region after : Region}

theorem scan_of_readable {σ : Type} (mapper : EntityMapper) (visit : EntityMapper.Visitor σ)
    (state : σ) (readable : region.sheet.grid.checkBounds region.span = .ok ()) :
    ∃ result, Region.scan mapper visit state region = .ok result region := by
  rw [Region.scan_apply, Grid.read_ok_iff.2 ⟨readable, rfl⟩]
  exact ⟨_, rfl⟩

theorem find_of_readable (filter : Filter)
    (readable : region.sheet.grid.checkBounds region.span = .ok ()) :
    ∃ found, repository.find filter region = .ok found region := by
  obtain ⟨result, scanned⟩ := scan_of_readable repository.mapper (collect filter) [] readable
  rw [find, Action.bind_of_ok scanned]
  exact ⟨_, rfl⟩

theorem find_one_of_readable (filter : Filter)
    (readable : region.sheet.grid.checkBounds region.span = .ok ()) :
    ∃ found, repository.findOne filter region = .ok found region := by
  obtain ⟨result, scanned⟩ := scan_of_readable repository.mapper (collectFirst filter) none readable
  rw [findOne, Action.bind_of_ok scanned]
  exact ⟨_, rfl⟩

theorem at_bottom_of_insert {entities : List Entity} (nonempty : entities ≠ [])
    (inserts : repository.insertMany entities region = .ok () after)
    (exact : after.sheet.grid.IsExact) : after.AtBottom := by
  rw [insert_many_apply nonempty] at inserts
  exact Region.at_bottom_of_append inserts exact

theorem at_bottom_of_delete {filter : Filter} {firstOnly : Bool} {deletion : Deletion}
    (deletes : repository.delete filter firstOnly region = .ok deletion after)
    (matched : deletion.deleted = true) (exact : after.sheet.grid.IsExact) : after.AtBottom := by
  obtain ⟨⟨loaded, indexes⟩, middle, -, deletes⟩ := Action.bind_ok_iff.1 deletes
  obtain ⟨⟨⟩, cleared, clears, finished⟩ := Action.bind_ok_iff.1 deletes
  cases finished
  have nonempty : indexes ≠ [] := by
    rintro rfl
    cases matched
  exact Region.at_bottom_of_clear_rows (by simpa using nonempty) clears exact

end Repository

end GridStore
