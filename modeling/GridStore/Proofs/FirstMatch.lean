import GridStore.Proofs.Headers

/-!
Searching for and deleting one entity only, against searching for and deleting all of them. The
scan that stops at the first match has been shown the same rows up to there as the scan that goes
on, so that it ends with the first thing that the other one collects.
-/

set_option autoImplicit false

namespace GridStore

/-- A visitor that takes the first entity of its choice and stops the scan there ends with what it
takes from the first such sight of a scan that nobody stops. -/
theorem EntityMapper.scan_from_until {σ : Type} (mapper : EntityMapper) (visit : Visitor σ)
    (chosen : Entity → Bool) (take : σ → Entity → Nat → σ)
    (stops : ∀ state entity index stopped, visit state entity index stopped =
      if chosen entity then (take state entity index, true) else (state, false))
    (rows : List Row) (index : Nat) (state : σ) :
    (mapper.scanFrom visit index state rows).2 =
      ((mapper.seen index rows).find? fun sight => chosen sight.1).elim state
        fun sight => take state sight.1 sight.2.1 := by
  induction rows generalizing index with
  | nil => rfl
  | cons row rest induction =>
      rw [scanFrom]
      simp only [stops]
      by_cases hit : chosen (mapper.load row index).1 = true
      · simp [seen, hit]
      · cases stopped : (mapper.load row index).2 with
        | true => simp [seen, hit, stopped]
        | false => simp [seen, hit, stopped, induction]

namespace Repository

variable {repository : Repository} {filter : Filter} {region : Region}

theorem find_one_apply (repository : Repository) (filter : Filter) (region : Region) :
    repository.findOne filter region = match region.sheet.grid.read region.span with
      | .ok rows => .ok (((repository.mapper.seen 0 rows).map Prod.fst).find? filter.accepts) region
      | .error cause => .error (.grid cause) region := by
  have scanned : ∀ rows, (repository.mapper.scan (collectFirst filter) none rows).2 =
      ((repository.mapper.seen 0 rows).map Prod.fst).find? filter.accepts := by
    intro rows
    have first := repository.mapper.scan_from_until (collectFirst filter) filter.accepts
      (fun _ entity _ => some entity) (fun _ _ _ _ => rfl) rows 0 none
    have found : (fun entity => filter.accepts entity) ∘ (Prod.fst : Entity × Nat × Bool → Entity) =
        fun sight => filter.accepts sight.1 := rfl
    rw [EntityMapper.scan, first, List.find?_map, found]
    cases (repository.mapper.seen 0 rows).find? fun sight => filter.accepts sight.1 <;> rfl
  rw [findOne, Region.convert_read Prod.snd (Region.scan_apply repository.mapper _ none region)]
  cases region.sheet.grid.read region.span with
  | ok rows => exact congrArg (EStateM.Result.ok · region) (scanned rows)
  | error cause => rfl

theorem find_one_is_head (repository : Repository) (filter : Filter) :
    repository.findOne filter = List.head? <$> repository.find filter := by
  funext region
  have mapped : (List.head? <$> repository.find filter) region =
      EStateM.map List.head? (repository.find filter) region := rfl
  rw [mapped, EStateM.map, find_apply, find_one_apply]
  cases region.sheet.grid.read region.span with
  | error cause => rfl
  | ok rows =>
      simp only [EntityMapper.seen_entities, List.head?_filter]

/-- The positions of all matching entities, as a scan that goes to the end collects them. -/
def reported (repository : Repository) (filter : Filter) : Action Region (List Nat) := do
  return (← Region.scan repository.mapper (collectIndexes filter false) []).2

def removing (indexes : List Nat) : Action Region Deletion := do
  Region.clearEntities indexes
  return ⟨indexes⟩

theorem reported_apply (repository : Repository) (filter : Filter) (region : Region) :
    repository.reported filter region = match region.sheet.grid.read region.span with
      | .ok rows => .ok (((repository.mapper.seen 0 rows).filter fun sight =>
          filter.accepts sight.1).map fun sight => sight.2.1) region
      | .error cause => .error (.grid cause) region := by
  rw [reported, Region.convert_read Prod.snd (Region.scan_apply repository.mapper _ [] region)]
  cases region.sheet.grid.read region.span with
  | ok rows =>
      have scanned : (repository.mapper.scan (collectIndexes filter false) [] rows).2 =
          ((repository.mapper.seen 0 rows).filter fun sight => filter.accepts sight.1).map
            fun sight => sight.2.1 := by
        rw [EntityMapper.scan, EntityMapper.scan_from_quiet _ (collect_indexes_quiet filter),
          collected_indexes, List.nil_append]
      exact congrArg (EStateM.Result.ok · region) scanned
  | error cause => rfl

theorem first_reported (mapper : EntityMapper) (filter : Filter) (rows : List Row) :
    (mapper.scan (collectIndexes filter true) [] rows).2 =
      (((mapper.seen 0 rows).filter fun sight => filter.accepts sight.1).map
        fun sight => sight.2.1).take 1 := by
  have first := mapper.scan_from_until (collectIndexes filter true) filter.accepts
    (fun found _ index => found ++ [index]) (fun _ _ _ _ => rfl) rows 0 []
  rw [EntityMapper.scan, first, ← List.map_take, List.take_one, List.head?_filter]
  cases (mapper.seen 0 rows).find? fun sight => filter.accepts sight.1 <;> rfl

/-- A deletion of one entity scans as the deletion of all of them does, and then deletes the first
of those that the other one deletes. -/
theorem delete_one_of_reported (repository : Repository) (filter : Filter) :
    repository.deleteOne filter =
      repository.reported filter >>= fun indexes => removing (indexes.take 1) := by
  funext region
  rw [deleteOne, delete]
  have scanned := Region.scan_apply repository.mapper (collectIndexes filter true) [] region
  have reports := reported_apply repository filter region
  cases held : region.sheet.grid.read region.span with
  | error cause =>
      rw [held] at scanned reports
      rw [Action.bind_of_error scanned, Action.bind_of_error reports]
  | ok rows =>
      rw [held] at scanned reports
      rw [Action.bind_of_ok scanned, Action.bind_of_ok reports, ← first_reported]
      rfl

theorem find_and_delete_of_reported (repository : Repository) (filter : Filter) :
    repository.findAndDelete filter = repository.reported filter >>= removing := by
  rw [reported, bind_assoc]
  rfl

theorem reported_inside {indexes : List Nat} {after : Region}
    (reports : repository.reported filter region = .ok indexes after) :
    region.sheet.grid.checkBounds region.span = .ok () ∧ after = region ∧
      ∀ index ∈ indexes, index < region.span.rows := by
  obtain ⟨⟨entities, found⟩, middle, scanned, finished⟩ := Action.bind_ok_iff.1 reports
  cases finished
  rw [Region.scan_apply] at scanned
  cases held : region.sheet.grid.read region.span with
  | error cause =>
      rw [held] at scanned
      cases scanned
  | ok rows =>
      obtain ⟨readable, rfl⟩ := Grid.read_ok_iff.1 held
      rw [held] at scanned
      obtain ⟨collected, rfl⟩ := EStateM.Result.ok.inj scanned
      have inside := collected_inside repository.mapper filter false
        (region.sheet.grid.block region.span)
      rw [Grid.length_block readable, collected] at inside
      exact ⟨readable, rfl, inside⟩

theorem delete_one_when_reported (exact : region.sheet.grid.IsExact) {indexes : List Nat}
    {after : Region} (reports : repository.reported filter region = .ok indexes after) :
    ∃ settled, repository.deleteOne filter region = .ok ⟨indexes.take 1⟩ settled ∧
      Deleted region.sheet.grid settled.sheet.grid region.span (indexes.take 1) := by
  obtain ⟨readable, rfl, inside⟩ := reported_inside reports
  obtain ⟨settled, cleared, blanked⟩ := clear_entities_inside exact readable
    fun index member => inside index (List.mem_of_mem_take member)
  refine ⟨settled, ?_, blanked⟩
  rw [delete_one_of_reported, Action.bind_of_ok reports, removing, Action.bind_of_ok cleared]
  rfl

/-- Stopping at the first match gives the first of what going on gives. A search for one entity is
a search for all, of which the first is returned. A deletion of one entity makes the same scan as a
deletion of all, and fails with it; then it does what any deletion does from there that only
reports the first of those entities. On a grid whose extent numbers keep exactly nothing but the
scan can fail, and of the grid only that row changes. -/
theorem stopping_takes_first (repository : Repository) (filter : Filter) :
    repository.findOne filter = List.head? <$> repository.find filter ∧
      repository.findAndDelete filter = repository.reported filter >>= removing ∧
      repository.deleteOne filter =
        repository.reported filter >>= (fun indexes => removing (indexes.take 1)) ∧
      (∀ region (other : Repository) only indexes,
        repository.reported filter region = .ok indexes region →
          other.reported only region = .ok (indexes.take 1) region →
            repository.deleteOne filter region = other.findAndDelete only region) ∧
      ∀ region, region.sheet.grid.IsExact →
        ((∃ error after, repository.deleteOne filter region = .error error after) ↔
          ∃ error after, repository.reported filter region = .error error after) ∧
        ∀ indexes after, repository.reported filter region = .ok indexes after →
          ∃ settled, repository.deleteOne filter region = .ok ⟨indexes.take 1⟩ settled ∧
            Deleted region.sheet.grid settled.sheet.grid region.span (indexes.take 1) := by
  refine ⟨find_one_is_head repository filter, find_and_delete_of_reported repository filter,
    delete_one_of_reported repository filter, ?_, ?_⟩
  · intro region other only indexes reports reportsFirst
    rw [delete_one_of_reported, find_and_delete_of_reported, Action.bind_of_ok reports,
      Action.bind_of_ok reportsFirst]
  · intro region exact
    refine ⟨?_, fun indexes after => delete_one_when_reported exact⟩
    constructor
    · rintro ⟨error, after, failed⟩
      cases reports : repository.reported filter region with
      | error cause middle => exact ⟨cause, middle, rfl⟩
      | ok indexes middle =>
          obtain ⟨settled, deleted, -⟩ := delete_one_when_reported exact reports
          rw [failed] at deleted
          cases deleted
    · rintro ⟨error, after, failed⟩
      rw [delete_one_of_reported]
      exact ⟨error, after, Action.bind_of_error failed⟩

def hastyRepository : Repository where
  map := ⟨[("name", 0)]⟩
  mapper :=
    { rows := { map := ⟨[("name", 0)]⟩, strategies := [] }
      strategies := [{ load := fun entity index _ => (entity, index == 2) }] }

def fourPeopleRegion : Region where
  sheet := { grid := .ofRows "people" [[.string "Ann"], [.string "Bob"], [.string "Cid"], [.empty]] }
  span := ⟨1, 1, 4, 1⟩

theorem delete_first_but_bob :
    hastyRepository.reported (Filter.empty.whereOperator "name" .notEqual (.value (.string "Bob")))
        fourPeopleRegion = .ok [0, 2] fourPeopleRegion ∧
      hastyRepository.deleteOne
          (Filter.empty.whereOperator "name" .notEqual (.value (.string "Bob"))) fourPeopleRegion =
        hastyRepository.findAndDelete (Filter.empty.whereEquals "name" (.string "Ann"))
          fourPeopleRegion ∧
      ∃ settled, hastyRepository.deleteOne
          (Filter.empty.whereOperator "name" .notEqual (.value (.string "Bob"))) fourPeopleRegion =
            .ok ⟨[0]⟩ settled ∧
          Deleted fourPeopleRegion.sheet.grid settled.sheet.grid ⟨1, 1, 4, 1⟩ [0] := by
  have exact : fourPeopleRegion.sheet.grid.IsExact := ⟨by decide, by decide⟩
  obtain ⟨-, -, -, same, safe⟩ := stopping_takes_first hastyRepository
    (Filter.empty.whereOperator "name" .notEqual (.value (.string "Bob")))
  have reports : hastyRepository.reported
      (Filter.empty.whereOperator "name" .notEqual (.value (.string "Bob"))) fourPeopleRegion =
        .ok [0, 2] fourPeopleRegion := rfl
  have onlyAnn : hastyRepository.reported (Filter.empty.whereEquals "name" (.string "Ann"))
      fourPeopleRegion = .ok [0] fourPeopleRegion := rfl
  exact ⟨reports, same _ _ _ _ reports onlyAnn, (safe _ exact).2 _ _ reports⟩

end Repository

end GridStore
