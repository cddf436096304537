import GridStore.Proofs.Action.Frame
import GridStore.Proofs.Region.Steps

/-!
Failing operations on a region. Everything that may go wrong goes wrong before the grid is
changed: the one step behind the change is measuring the region again, which cannot fail then.
-/

set_option autoImplicit false

namespace GridStore

inductive GridChange where
  | write (span : Span) (values : List Row)
  | clear (addresses : List String)
  | sort (span : Span) (column : Nat) (ascending : Bool)

namespace GridChange

def apply : GridChange → Grid → Except GridError Grid
  | write span values, grid => grid.write span values
  | clear addresses, grid => grid.clear addresses
  | sort span column ascending, grid => grid.sort span column ascending

theorem extent_of_write {grid after : Grid} {span : Span} {values : List Row}
    (wrote : grid.write span values = .ok after) :
    grid.maxRows ≤ after.maxRows ∧ grid.maxColumns ≤ after.maxColumns := by
  rw [Grid.write] at wrote
  split at wrote
  · obtain rfl := Except.ok.inj wrote
    refine ⟨?_, Nat.le_max_left _ _⟩
    simp only [Grid.mapCells, Grid.grow, Grid.maxRows, List.length_mapIdx, List.length_append,
      List.length_map]
    exact Nat.le_add_right _ _
  · cases wrote

/-- No change takes rows or columns away. -/
theorem extent_le {change : GridChange} {grid after : Grid}
    (changed : change.apply grid = .ok after) :
    grid.maxRows ≤ after.maxRows ∧ grid.maxColumns ≤ after.maxColumns := by
  cases change with
  | write span values => exact extent_of_write changed
  | clear addresses =>
      rw [apply, Grid.clear] at changed
      cases found : addresses.mapM grid.blockOfAddress with
      | error cause =>
          rw [found] at changed
          cases changed
      | ok spans =>
          rw [found] at changed
          obtain rfl := Except.ok.inj changed
          exact ⟨Nat.le_of_eq List.length_mapIdx.symm, Nat.le_refl _⟩
  | sort span column ascending =>
      rw [apply, Grid.sort] at changed
      cases checked : grid.checkBounds span with
      | error cause =>
          rw [checked] at changed
          cases changed
      | ok nothing =>
          by_cases outside : column < span.column ∨ span.lastColumn < column
          · simp [checked, outside, bind, Except.bind, throw, throwThe, MonadExceptOf.throw] at changed
          · rw [checked, Grid.read_ok_iff.2 ⟨checked, rfl⟩] at changed
            simp only [bind, Except.bind, if_neg outside] at changed
            exact extent_of_write changed

theorem max_rows_le {change : GridChange} {grid after : Grid}
    (changed : change.apply grid = .ok after) : grid.maxRows ≤ after.maxRows :=
  (extent_le changed).1

end GridChange

namespace Region

def gridFrame : Frame Region := .ofView fun region => region.sheet.grid

/-- The grid stays the same, unless it has outgrown the numbers that are kept exactly. -/
def exactGridFrame : Frame Region where
  related before after :=
    after.sheet.grid.maxRows < exactBound → after.sheet.grid = before.sheet.grid
  refl _ _ := rfl
  trans first second exact := by
    have same := second exact
    rw [same]
    exact first (same ▸ exact)

theorem exact_frame_of_keeps {α : Type} {action : Action Region α}
    (keeps : gridFrame.Keeps action) : exactGridFrame.Keeps action where
  on_ok ran _ := keeps.on_ok ran
  on_error failed _ := keeps.on_error failed

theorem keeps_on_sheet {α : Type} {action : Action Sheet α}
    (keeps : (Frame.ofView Sheet.grid).Keeps action) : gridFrame.Keeps (onSheet action) where
  on_ok ran := by
    obtain ⟨sheet, served, rfl⟩ := on_sheet_ok_iff.1 ran
    exact keeps.on_ok served
  on_error failed := by
    obtain ⟨sheet, refused, rfl⟩ := on_sheet_error_iff.1 failed
    exact keeps.on_error refused

def spanFrame : Frame Region := .ofView fun region => region.span

theorem on_sheet_keeps_span {α : Type} (action : Action Sheet α) :
    spanFrame.Keeps (onSheet action) where
  on_ok ran := by
    obtain ⟨sheet, -, rfl⟩ := on_sheet_ok_iff.1 ran
    rfl
  on_error failed := by
    obtain ⟨sheet, -, rfl⟩ := on_sheet_error_iff.1 failed
    rfl

theorem range_keeps_grid (address : Address) : gridFrame.Keeps (onSheet (Sheet.range address)) := by
  apply keeps_on_sheet
  constructor
  · intro sheet span final ran
    obtain ⟨cache, -, rfl⟩ := range_ok_iff.1 ran
    rfl
  · intro sheet error final failed
    rw [Sheet.range] at failed
    cases resolved : address.resolve sheet.grid sheet.cache with
    | ok span cache =>
        rw [resolved] at failed
        cases failed
    | error cause cache =>
        rw [resolved] at failed
        cases failed
        rfl

theorem remeasure_keeps_grid : gridFrame.Keeps remeasure := by
  unfold remeasure
  refine Frame.keeps_bind Frame.keeps_get fun held => ?_
  refine Frame.keeps_bind (keeps_on_sheet ?_) fun _ => ?_
  · exact Frame.keeps_modify fun _ => rfl
  · refine Frame.keeps_bind (range_keeps_grid _) fun measured => ?_
    exact Frame.keeps_modify fun _ => rfl

variable {region measured middle : Region}

/-- Changing the grid and measuring again, in a region that has just been measured: if that fails,
it was the change that failed, and the grid has not been touched. -/
theorem change_fails_early (change : GridChange) (first : remeasure region = .ok () measured)
    (exact : region.sheet.grid.maxRows < exactBound)
    (sameGrid : middle.sheet.grid = region.sheet.grid) (sameSpan : middle.span = measured.span) :
    exactGridFrame.KeepsOnFailure
      (onSheet (Sheet.change change.apply) >>= fun _ => remeasure) middle := by
  constructor
  intro error final failed exactFinal
  cases changed : change.apply middle.sheet.grid with
  | error cause =>
      rw [Action.bind_of_error (change_refused changed)] at failed
      cases failed
      rfl
  | ok grid =>
      have done : onSheet (Sheet.change change.apply) middle =
          .ok () { middle with sheet := ⟨grid, .empty⟩ } :=
        on_sheet_ok (change_ok_iff.2 ⟨grid, changed, rfl⟩)
      rw [Action.bind_of_ok done, sameSpan] at failed
      have kept : final.sheet.grid = grid := remeasure_keeps_grid.on_error failed
      have grown : region.sheet.grid.maxRows ≤ grid.maxRows := by
        rw [← sameGrid]
        exact GridChange.max_rows_le changed
      rw [kept] at exactFinal
      obtain ⟨cache, -, again⟩ := remeasure_again .empty first exact grown exactFinal
      rw [again] at failed
      cases failed

theorem append_fails_early (rows : List Row) (exact : region.sheet.grid.maxRows < exactBound) :
    exactGridFrame.KeepsOnFailure (append rows) region := by
  cases rows with
  | nil => exact Frame.keeps_on_failure (Frame.keeps_throw _)
  | cons head rest =>
      unfold append
      refine Frame.keeps_on_failure_bind (exact_frame_of_keeps remeasure_keeps_grid)
        fun _ measured first => ?_
      refine Frame.keeps_on_failure_bind Frame.keeps_get fun _ _ held => ?_
      cases held
      refine Frame.keeps_on_failure_guard (Frame.keeps_on_failure_guard ?_)
      refine Frame.keeps_on_failure_bind (exact_frame_of_keeps (range_keeps_grid _))
        fun target middle aimed => ?_
      have sameGrid : middle.sheet.grid = region.sheet.grid :=
        ((range_keeps_grid _).on_ok aimed).trans (remeasure_keeps_grid.on_ok first)
      exact change_fails_early (.write target (head :: rest)) first exact sameGrid
        ((on_sheet_keeps_span _).on_ok aimed)

theorem sort_fails_early (options : SortOptions)
    (exact : region.sheet.grid.maxRows < exactBound) :
    exactGridFrame.KeepsOnFailure (sort options) region := by
  unfold sort
  refine Frame.keeps_on_failure_bind (exact_frame_of_keeps remeasure_keeps_grid)
    fun _ measured first => ?_
  refine Frame.keeps_on_failure_bind Frame.keeps_get fun _ _ held => ?_
  cases held
  exact change_fails_early (.sort measured.span _ _) first exact (remeasure_keeps_grid.on_ok first)
    rfl

theorem clear_rows_fails_early (rows : List Nat)
    (exact : region.sheet.grid.maxRows < exactBound) :
    exactGridFrame.KeepsOnFailure (clearRows rows) region := by
  unfold clearRows
  by_cases nothing : rows.isEmpty = true
  · rw [if_pos nothing]
    exact Frame.keeps_on_failure (Frame.keeps_pure _)
  · rw [if_neg nothing]
    have keepsGrid : ∀ span, gridFrame.Keeps (rows.mapM fun row => do
        return (← onSheet (Sheet.range (rowAddress span row))).a1) := fun span =>
      Frame.keeps_map_m (fun _ => Frame.keeps_bind (range_keeps_grid _) fun _ => Frame.keeps_pure _)
        rows
    have keepsSpan : ∀ span, spanFrame.Keeps (rows.mapM fun row => do
        return (← onSheet (Sheet.range (rowAddress span row))).a1) := fun span =>
      Frame.keeps_map_m
        (fun _ => Frame.keeps_bind (on_sheet_keeps_span _) fun _ => Frame.keeps_pure _) rows
    refine Frame.keeps_on_failure_bind (exact_frame_of_keeps remeasure_keeps_grid)
      fun _ measured first => ?_
    refine Frame.keeps_on_failure_bind Frame.keeps_get fun _ _ held => ?_
    cases held
    refine Frame.keeps_on_failure_bind (exact_frame_of_keeps (keepsGrid _))
      fun addresses middle listed => ?_
    have sameGrid : middle.sheet.grid = region.sheet.grid :=
      ((keepsGrid _).on_ok listed).trans (remeasure_keeps_grid.on_ok first)
    exact change_fails_early (.clear addresses) first exact sameGrid ((keepsSpan _).on_ok listed)

end Region

end GridStore
