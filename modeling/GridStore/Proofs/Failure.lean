import GridStore.Proofs.DataSource.Run
import GridStore.Proofs.Sort

/-!
Requests that fail. Whatever a repository is asked for, and whatever state it is in, a failure
leaves every grid as it was.
-/

set_option autoImplicit false

namespace GridStore

namespace Repository

variable {region : Region}

theorem scan_keeps_region {σ : Type} (mapper : EntityMapper) (visit : EntityMapper.Visitor σ)
    (state : σ) : (Frame.ofView id).Keeps (Region.scan mapper visit state) where
  on_ok := by
    intro region value final ran
    rw [Region.scan_apply] at ran
    cases held : region.sheet.grid.read region.span with
    | ok rows =>
        rw [held] at ran
        cases ran
        rfl
    | error cause =>
        rw [held] at ran
        cases ran
  on_error := by
    intro region error final failed
    rw [Region.scan_apply] at failed
    cases held : region.sheet.grid.read region.span with
    | ok rows =>
        rw [held] at failed
        cases failed
    | error cause =>
        rw [held] at failed
        cases failed
        rfl

theorem find_keeps_region (repository : Repository) (filter : Filter) :
    (Frame.ofView id).Keeps (repository.find filter) := by
  unfold find
  exact Frame.keeps_bind (scan_keeps_region _ _ _) fun _ => Frame.keeps_pure _

theorem find_one_keeps_region (repository : Repository) (filter : Filter) :
    (Frame.ofView id).Keeps (repository.findOne filter) := by
  unfold findOne
  exact Frame.keeps_bind (scan_keeps_region _ _ _) fun _ => Frame.keeps_pure _

theorem delete_fails_early (repository : Repository) (filter : Filter) (firstOnly : Bool)
    (exact : region.sheet.grid.maxRows < exactBound) :
    Region.exactGridFrame.KeepsOnFailure (repository.delete filter firstOnly) region := by
  unfold delete
  refine Frame.keeps_on_failure_bind (Frame.keeps_of_same (scan_keeps_region _ _ _))
    fun found middle scanned => ?_
  obtain rfl : middle = region := (scan_keeps_region _ _ _).on_ok scanned
  constructor
  intro error final failed
  rcases Action.bind_error_iff.1 failed with stopped | ⟨nothing, last, cleared, stopped⟩
  · exact (Region.clear_rows_fails_early _ exact).on_error stopped
  · cases stopped

theorem insert_many_fails_early (repository : Repository) (entities : List Entity)
    (exact : region.sheet.grid.maxRows < exactBound) :
    Region.exactGridFrame.KeepsOnFailure (repository.insertMany entities) region := by
  unfold insertMany Region.appendEntities
  by_cases nothing : entities.isEmpty = true
  · rw [if_pos nothing]
    exact Frame.keeps_on_failure (Frame.keeps_pure _)
  · rw [if_neg nothing]
    exact Region.append_fails_early _ exact

theorem serve_fails_early (repository : Repository) (request : Request)
    (exact : region.sheet.grid.maxRows < exactBound) :
    Region.exactGridFrame.KeepsOnFailure (request.serve repository) region := by
  constructor
  intro error final failed
  cases request with
  | find filter =>
      have stopped := Action.discard_error_iff.1 failed
      exact (Frame.keeps_of_same (find_keeps_region repository filter)).on_error stopped
  | findOne filter =>
      have stopped := Action.discard_error_iff.1 failed
      exact (Frame.keeps_of_same (find_one_keeps_region repository filter)).on_error stopped
  | findAndDelete filter =>
      have stopped := Action.discard_error_iff.1 failed
      exact (delete_fails_early repository filter false exact).on_error stopped
  | deleteOne filter =>
      have stopped := Action.discard_error_iff.1 failed
      exact (delete_fails_early repository filter true exact).on_error stopped
  | insert entity => exact (insert_many_fails_early repository [entity] exact).on_error failed
  | insertMany entities => exact (insert_many_fails_early repository entities exact).on_error failed
  | sort field ascending => exact (Region.sort_fails_early _ exact).on_error failed

/-- A request that fails leaves the grid exactly as it was. In particular measuring the region
again, the only step that follows a change of the grid, never fails: it succeeds whenever measuring
succeeded before the change. -/
theorem failure_leaves_grid (repository : Repository) (request : Request) {region : Region}
    (exact : region.sheet.grid.maxRows < exactBound) :
    (∀ error after, request.serve repository region = .error error after →
        after.sheet.grid.maxRows < exactBound → after.sheet.grid = region.sheet.grid) ∧
      ∀ measured (change : GridChange) grid, Region.remeasure region = .ok () measured →
        change.apply region.sheet.grid = .ok grid → grid.maxRows < exactBound →
          ∃ settled, Region.remeasure ⟨⟨grid, .empty⟩, measured.span⟩ = .ok () settled := by
  constructor
  · intro error after failed exactAfter
    exact (serve_fails_early repository request exact).on_error failed exactAfter
  · intro measured change grid first changed exactAfter
    obtain ⟨cache, -, again⟩ := Region.remeasure_again .empty first exact
      (GridChange.max_rows_le changed) exactAfter
    exact ⟨_, again⟩

/-- A block that is wider than its sheet can be measured, but not be read or sorted. -/
def widePeople : Region where
  sheet := { grid := .ofRows "people" [[.string "Ann"], [.string "Bob"]] }
  span := ⟨1, 1, 2, 2⟩

theorem failed_sort_leaves_people :
    (∃ error after, (Request.sort (some "name") none).serve (peopleBinding ⟨1, 1, 2, 2⟩).repository
        widePeople = .error error after ∧ after.sheet.grid = widePeople.sheet.grid) ∧
      ∃ measured grid settled, Region.remeasure widePeople = .ok () measured ∧
        (GridChange.write ⟨3, 1, 1, 1⟩ [[.string "Cid"]]).apply widePeople.sheet.grid = .ok grid ∧
        Region.remeasure ⟨⟨grid, .empty⟩, measured.span⟩ = .ok () settled := by
  have exact : widePeople.sheet.grid.IsExact := ⟨by decide, by decide⟩
  have corner : 1 ≤ 1 ∧ 1 ≤ widePeople.sheet.grid.maxRows := by decide
  have column : 1 ≤ 1 ∧ 1 ≤ exactBound := by decide
  have columns : 1 ≤ 2 ∧ 2 ≤ exactBound := by decide
  obtain ⟨cache, -, resolved⟩ := Region.resolve_to_bottom
    (MetricCache.faithful_empty widePeople.sheet.grid) exact corner column columns
  have first : Region.remeasure widePeople =
      .ok () ⟨⟨widePeople.sheet.grid, cache⟩, ⟨1, 1, 2, 2⟩⟩ :=
    Region.remeasure_ok_iff.2 ⟨_, cache, resolved, rfl⟩
  have unsortable : ¬Region.CanSort { column := some 1, ascending := some false }
      widePeople.sheet.grid ⟨1, 1, 2, 2⟩ := fun sortable => by cases sortable.1
  have shaped : Grid.hasShape [[.string "Cid"]] ⟨3, 1, 1, 1⟩ = true := rfl
  obtain ⟨keeps, settles⟩ := failure_leaves_grid (peopleBinding ⟨1, 1, 2, 2⟩).repository
    (.sort (some "name") none) exact.1
  constructor
  · obtain ⟨error, stopped, failed, kept⟩ :=
      Region.sort_unsortable exact.1 (by decide) first unsortable
    exact ⟨error, stopped, failed, keeps error stopped failed (kept ▸ exact.1)⟩
  · obtain ⟨grid, wrote⟩ := Grid.write_shaped widePeople.sheet.grid shaped
    have rows : grid.maxRows < exactBound := by
      rw [(Grid.written_of_write (by decide) wrote).maxRows]
      decide
    obtain ⟨settled, again⟩ := settles _ (.write ⟨3, 1, 1, 1⟩ [[.string "Cid"]]) grid first wrote rows
    exact ⟨_, grid, settled, first, wrote, again⟩

end Repository

end GridStore
