import GridStore.Proofs.Scan

/-!
Searches against the plain read of a region. They succeed together and fail with the same error,
and where no strategy stops the scan a search is the plain read, filtered. A row that stops the
scan is the difference: it is not read, but a search still finds it.
-/

set_option autoImplicit false

namespace GridStore.Repository

theorem filtered_option (accepted : Entity → Bool) (entity : Option Entity) :
    entity.toList.filter accepted = [] ↔ entity.all (fun entity => !accepted entity) = true := by
  cases entity with
  | none => simp
  | some entity => simp

/-- A search fails exactly where the plain read fails. Otherwise it finds what the plain read
returns, filtered, and in addition the accepted one among the rows that stop the scan, so that it
agrees with the plain read exactly if that row, if any, is not accepted. -/
theorem find_against_plain_read (repository : Repository) (filter : Filter) (region : Region) :
    match Region.entities repository.mapper region with
    | .ok entities after =>
        after = region ∧ ∃ found, repository.find filter region = .ok found region ∧
          found = entities.filter filter.accepts ++
            (repository.mapper.stopped? (region.sheet.grid.block region.span)).toList.filter
              filter.accepts ∧
          (found = entities.filter filter.accepts ↔
            (repository.mapper.stopped? (region.sheet.grid.block region.span)).all
              (fun entity => !filter.accepts entity) = true)
    | .error error after =>
        after = region ∧ repository.find filter region = .error error region := by
  rw [Region.entities_apply, find_apply]
  cases held : region.sheet.grid.read region.span with
  | ok rows =>
      obtain ⟨-, rfl⟩ := Grid.read_ok_iff.1 held
      refine ⟨rfl, _, rfl, List.filter_append _ _, ?_⟩
      rw [List.filter_append, List.append_right_eq_self]
      exact filtered_option filter.accepts _
  | error cause => exact ⟨rfl, rfl⟩

def stoppingRepository : Repository where
  map := ⟨[("name", 0)]⟩
  mapper :=
    { rows := { map := ⟨[("name", 0)]⟩, strategies := [] }
      strategies := [{ load := fun entity index _ => (entity, index == 0) }] }

def onePersonRegion : Region where
  sheet := { grid := .ofRows "people" [[.string "Ann"]] }
  span := ⟨1, 1, 1, 1⟩

theorem find_returns_stopped_row :
    Region.entities stoppingRepository.mapper onePersonRegion = .ok [] onePersonRegion ∧
      stoppingRepository.find .empty onePersonRegion =
        .ok [.ofList [("name", .string "Ann")]] onePersonRegion := ⟨rfl, rfl⟩

end GridStore.Repository
