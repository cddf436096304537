import GridStore.Proofs.DataSource.InTurn
import GridStore.Proofs.Leftover
import GridStore.Proofs.Region.InTurn

/-!
Inserting entities one by one, against inserting them at once. An entity whose row has some content
moves the last row with content down by one, so that the next entity goes right below it.
-/

set_option autoImplicit false

namespace GridStore.Repository

variable {repository : Repository} {region : Region} {entities : List Entity}

theorem to_rows_of_alike {mapper : EntityMapper}
    (alike : ∀ entity index, mapper.store entity index = mapper.store entity 0) :
    mapper.toRows entities = entities.map fun entity => mapper.store entity 0 := by
  rw [EntityMapper.toRows]
  apply List.ext_getElem?
  intro index
  rw [List.getElem?_mapIdx, List.getElem?_map]
  congr 1
  funext entity
  exact alike entity index

theorem insert_apply (repository : Repository) (entity : Entity) :
    repository.insert entity = Region.append [repository.mapper.store entity 0] :=
  insert_many_apply (List.cons_ne_nil _ _)

theorem insert_each_apply (repository : Repository) (entities : List Entity) :
    (entities.forM fun entity => repository.insert entity) =
      Region.appendEach (entities.map fun entity => repository.mapper.store entity 0) := by
  induction entities with
  | nil => rfl
  | cons entity rest induction =>
      rw [Action.for_m_cons, List.map_cons, Region.append_each_cons, insert_apply, induction]

def HasContent (repository : Repository) (entity : Entity) : Prop :=
  ∃ cell ∈ repository.mapper.store entity 0, cell.isBlank = false

theorem even_of_entities (some : entities ≠ [])
    (filled : ∀ entity ∈ entities, repository.HasContent entity)
    (exact : region.sheet.grid.maxRows < exactBound)
    (room : region.sheet.grid.lastRow + entities.length < exactBound) :
    Region.EvenRows region (entities.map fun entity => repository.mapper.store entity 0)
      repository.mapper.rows.map.width := by
  have widths : ∀ row ∈ entities.map (fun entity => repository.mapper.store entity 0),
      row.length = repository.mapper.rows.map.width := by
    intro row member
    obtain ⟨entity, -, rfl⟩ := List.mem_map.1 member
    exact RowMapper.length_to_row _ _
  obtain ⟨entity, member⟩ := List.exists_mem_of_ne_nil entities some
  obtain ⟨cell, held, -⟩ := filled entity member
  have positive := List.length_pos_of_mem held
  rw [widths _ (List.mem_map_of_mem member)] at positive
  refine ⟨exact, ?_, ?_, positive, widths⟩
  · rw [List.length_map]
    exact room
  · rw [ne_eq, List.map_eq_nil_iff]
    exact some

/-- On a region, entities with content are inserted one by one and at once with the same outcome, or
neither way, which leaves the grid alone. -/
theorem inserts_in_turn
    (alike : ∀ entity index,
      repository.mapper.store entity index = repository.mapper.store entity 0)
    (filled : ∀ entity ∈ entities, repository.HasContent entity)
    (exact : region.sheet.grid.maxRows < exactBound)
    (room : region.sheet.grid.lastRow + entities.length < exactBound) :
    (∃ after, repository.insertMany entities region = .ok () after ∧
      (entities.forM fun entity => repository.insert entity) region = .ok () after) ∨
      (∃ error stopped, repository.insertMany entities region = .error error stopped ∧
        stopped.sheet.grid = region.sheet.grid) ∧
      ∃ error stopped,
        (entities.forM fun entity => repository.insert entity) region = .error error stopped ∧
          stopped.sheet.grid = region.sheet.grid := by
  by_cases nothing : entities = []
  · subst nothing
    exact Or.inl ⟨region, rfl, Action.for_m_nil _⟩
  · have even := even_of_entities nothing filled exact room
    have content : Region.Filled
        (entities.map fun entity => repository.mapper.store entity 0) := by
      intro row member
      obtain ⟨entity, listed, rfl⟩ := List.mem_map.1 member
      exact filled entity listed
    rw [insert_many_apply nothing, insert_each_apply, to_rows_of_alike alike]
    exact Region.appends_in_turn even content

/-- Inserting entities that leave something in their rows, one by one or at once, on a sheet that
counts its rows exactly: from the state in which the repository has been connected to, either both
succeed and end in the same state, or both fail and every sheet stays as it was. -/
theorem insert_in_turn {source connected : DataSource} {selector : Selector} {place : Nat}
    {binding : Binding} {region : Region} {entities : List Entity} (reachable : source.Reachable)
    (access : source.Access selector connected place binding region)
    (exact : region.sheet.grid.maxRows < exactBound)
    (room : region.sheet.grid.lastRow + entities.length < exactBound)
    (filled : ∀ entity ∈ entities, binding.repository.HasContent entity) :
    (∃ final,
      DataSource.run selector (fun repository => repository.insertMany entities) connected =
        .ok () final ∧
      (entities.forM fun entity =>
        DataSource.run selector fun repository => repository.insert entity) connected =
          .ok () final) ∨
    (∃ error stopped,
      DataSource.run selector (fun repository => repository.insertMany entities) connected =
        .error error stopped ∧ stopped.workbook = connected.workbook) ∧
    ∃ error stopped,
      (entities.forM fun entity =>
        DataSource.run selector fun repository => repository.insert entity) connected =
          .error error stopped ∧ stopped.workbook = connected.workbook := by
  have again := DataSource.access_connected access
  have alike := DataSource.stores_of_access reachable access
  rcases inserts_in_turn alike filled exact room with
    ⟨after, atOnce, each⟩ | ⟨⟨error, stopped, atOnce, kept⟩, ⟨cause, halted, each, same⟩⟩
  · left
    exact ⟨_, (DataSource.run_of_access again).2 ⟨after, atOnce, rfl⟩,
      DataSource.each_of_access again rfl each⟩
  · right
    constructor
    · exact ⟨error, _, DataSource.run_fails_of_access again atOnce,
        DataSource.workbook_after_put again kept⟩
    · exact ⟨cause, _, DataSource.each_fails_of_access again rfl each,
        DataSource.workbook_after_put again same⟩

def newcomers : List Entity := [person "Cid", person "Dan"]

theorem newcomers_in_turn :
    twoPeople.Access (.name "people") twoPeople 0 firstPeople (firstRegion twoNames) ∧
      (∀ entity ∈ newcomers, firstPeople.repository.HasContent entity) ∧
      ∃ final,
        DataSource.run (.name "people") (fun repository => repository.insertMany newcomers)
          twoPeople = .ok () final ∧
        (newcomers.forM fun entity =>
          DataSource.run (.name "people") fun repository => repository.insert entity) twoPeople =
            .ok () final := by
  have access : twoPeople.Access (.name "people") twoPeople 0 firstPeople
      (firstRegion twoNames) := ⟨rfl, rfl, rfl⟩
  have exact : twoNames.IsExact := ⟨by decide, by decide⟩
  have room : twoNames.lastRow + newcomers.length < exactBound := by decide
  have filled : ∀ entity ∈ newcomers, firstPeople.repository.HasContent entity := by
    intro entity member
    simp only [newcomers, List.mem_cons, List.not_mem_nil, or_false] at member
    rcases member with rfl | rfl
    · exact ⟨.string "Cid", List.mem_singleton.2 rfl, rfl⟩
    · exact ⟨.string "Dan", List.mem_singleton.2 rfl, rfl⟩
  have some : newcomers ≠ [] := List.cons_ne_nil _ _
  have widths : ∀ row ∈ [[Cell.string "Cid"], [Cell.string "Dan"]], row.length = 1 := by simp
  obtain ⟨after, appends, -⟩ := Region.append_inside .empty exact
    (rfl : twoNames.checkBounds ⟨1, 1, 2, 1⟩ = .ok ()) (List.cons_ne_nil _ _) widths
    (by decide) room
  have inserts : firstPeople.repository.insertMany newcomers (firstRegion twoNames) =
      .ok () after := by
    rw [insert_many_apply some]
    exact appends
  have ran : DataSource.run (.name "people")
      (fun repository => repository.insertMany newcomers) twoPeople =
        .ok () (twoPeople.putRegion 0 firstPeople after) :=
    (DataSource.run_of_access access).2 ⟨after, inserts, rfl⟩
  refine ⟨access, filled, ?_⟩
  rcases insert_in_turn two_people_reachable access exact.1 room filled with
    both | ⟨⟨error, stopped, failed, -⟩, -⟩
  · exact both
  · cases ran.symm.trans failed

end GridStore.Repository
