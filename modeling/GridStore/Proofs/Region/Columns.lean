import GridStore.Proofs.DataSource.Follow
import GridStore.Proofs.DataSource.Unplaced
import GridStore.Proofs.Region.Frame

/-!
The columns of a region: whatever is done with the region, and whatever becomes of the grid behind
its back, they are the ones that it began with, unless numbers round them.
-/

set_option autoImplicit false

namespace GridStore

def Grid.changingFrame : Frame Grid where
  related _ _ := True
  refl _ := trivial
  trans _ _ := trivial

theorem Event.within_any (event : Event) : event.Within Grid.changingFrame := by
  cases event with
  | connect selector => trivial
  | ask selector request => trivial
  | change position update => exact fun _ _ _ => trivial

namespace Region

def columnsFrame : Frame Region where
  related before after :=
    (Address.IsKept before.span.column → after.span.column = before.span.column) ∧
      (Address.IsKept before.span.columns → after.span.columns = before.span.columns)
  refl region := ⟨fun _ => rfl, fun _ => rfl⟩
  trans := by
    rintro first second third ⟨columnEarly, columnsEarly⟩ ⟨columnLate, columnsLate⟩
    constructor
    · intro kept
      have same := columnEarly kept
      rw [columnLate (same ▸ kept), same]
    · intro kept
      have same := columnsEarly kept
      rw [columnsLate (same ▸ kept), same]

variable {region after : Region}

theorem same_columns (sameSpan : after.span = region.span) :
    columnsFrame.related region after := by
  constructor <;> intro _ <;> rw [sameSpan]

theorem keeps_columns {α : Type} {action : Action Region α} (keepsSpan : spanFrame.Keeps action) :
    columnsFrame.Keeps action where
  on_ok ran := same_columns (keepsSpan.on_ok ran)
  on_error failed := same_columns (keepsSpan.on_error failed)

theorem columns_steps : columnsFrame.KeepsSteps where
  remeasures :=
    { on_ok := by
        intro region nothing after ran
        obtain ⟨span, cache, resolved, rfl⟩ := remeasure_ok_iff.1 ran
        obtain ⟨-, column, columns, -⟩ := Address.rounded_of_numbers resolved
        refine ⟨column.eq_of_kept, fun kept => ?_⟩
        rw [Nat.max_eq_right (EntityRanges.positive_of_coordinate kept.coordinate)] at columns
        exact columns.eq_of_kept kept
      on_error := fun failed => same_columns (failed_remeasure_keeps_span.on_error failed) }
  ranges _ := keeps_columns (on_sheet_keeps_span _)
  changes _ := keeps_columns (on_sheet_keeps_span _)

/-- No change of a grid, whoever makes it, moves a region to other columns. -/
theorem columns_rely : Relies Grid.changingFrame columnsFrame where
  changes _ _ _ := trivial
  serves := columns_steps.serve
  bears _ _ _ := same_columns rfl

end Region

end GridStore
