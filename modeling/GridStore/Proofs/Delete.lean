import GridStore.Proofs.DataSource.Run
import GridStore.Proofs.Region.Lines

/-!
Deletion: the rows of a region whose entities a filter accepts are blanked across the region, and
nothing else on the sheet changes.
-/

set_option autoImplicit false

namespace GridStore

namespace Repository

def matching (mapper : EntityMapper) (filter : Filter) (rows : List Row) : List Nat :=
  (rows.zipIdx.filter fun place => filter.accepts (mapper.load place.1 0).1).map Prod.snd

theorem collect_indexes_quiet (filter : Filter) (found : List Nat) (entity : Entity) (index : Nat)
    (stopped : Bool) : (collectIndexes filter false found entity index stopped).2 = false := by
  rw [collectIndexes]
  split <;> rfl

theorem collected_indexes (filter : Filter) (sights : List (Entity × Nat × Bool))
    (found : List Nat) :
    sights.foldl
        (fun found sight => (collectIndexes filter false found sight.1 sight.2.1 sight.2.2).1)
        found =
      found ++ (sights.filter fun sight => filter.accepts sight.1).map fun sight => sight.2.1 := by
  induction sights generalizing found with
  | nil => simp
  | cons sight rest induction =>
      rw [List.foldl_cons, induction, List.filter_cons, collectIndexes]
      by_cases accepted : filter.accepts sight.1 = true
      · simp [accepted]
      · simp [accepted]

theorem scanned_indexes {mapper : EntityMapper} (steady : mapper.IsSteady) (filter : Filter)
    (rows : List Row) :
    (mapper.scan (collectIndexes filter false) [] rows).2 = matching mapper filter rows := by
  rw [EntityMapper.scan, EntityMapper.scan_from_quiet _ (collect_indexes_quiet filter),
    collected_indexes, EntityMapper.seen_of_steady steady, List.filter_map, List.map_map]
  rfl

theorem matching_ascends (mapper : EntityMapper) (filter : Filter) (rows : List Row) :
    (matching mapper filter rows).Pairwise (· < ·) := by
  have positions : rows.zipIdx.map Prod.snd = List.range' 0 rows.length := by simp
  have among : (matching mapper filter rows).Sublist (rows.zipIdx.map Prod.snd) :=
    List.Sublist.map Prod.snd List.filter_sublist
  rw [positions] at among
  exact List.Pairwise.sublist among List.pairwise_lt_range'

theorem mem_matching_iff {mapper : EntityMapper} {filter : Filter} {rows : List Row} {index : Nat} :
    index ∈ matching mapper filter rows ↔
      ∃ row, rows[index]? = some row ∧ filter.accepts (mapper.load row 0).1 = true := by
  rw [matching, List.mem_map]
  constructor
  · rintro ⟨place, member, rfl⟩
    obtain ⟨listed, accepted⟩ := List.mem_filter.1 member
    exact ⟨place.1, List.mem_zipIdx_iff_getElem?.1 listed, accepted⟩
  · rintro ⟨row, found, accepted⟩
    exact ⟨(row, index), List.mem_filter.2 ⟨List.mem_zipIdx_iff_getElem?.2 found, accepted⟩, rfl⟩

theorem length_matching (mapper : EntityMapper) (filter : Filter) (rows : List Row) :
    (matching mapper filter rows).length =
      ((rows.map fun row => (mapper.load row 0).1).filter filter.accepts).length := by
  have places : rows.zipIdx.map Prod.fst = rows := List.zipIdx_map_fst 0 rows
  rw [matching, List.length_map, List.filter_map, List.length_map]
  conv_rhs => rw [← places, List.filter_map, List.length_map]
  rfl

/-- What a deletion does to a grid: the rows of a region at the given positions are blanked across
the region, and every other cell and the extent stay. -/
structure Deleted (before after : Grid) (span : Span) (indexes : List Nat) : Prop where
  name : after.name = before.name
  maxRows : after.maxRows = before.maxRows
  maxColumns : after.maxColumns = before.maxColumns
  blanked : ∀ index ∈ indexes, ∀ column, span.column ≤ column → column ≤ span.lastColumn →
    after.cell? (span.row + index) column = some .empty
  kept : ∀ row column,
    (∀ index ∈ indexes, row = span.row + index → column < span.column ∨ span.lastColumn < column) →
    after.cell? row column = before.cell? row column

theorem deleted_of_blank {grid : Grid} {span : Span} {indexes : List Nat}
    (readable : grid.checkBounds span = .ok ()) (inside : ∀ index ∈ indexes, index < span.rows) :
    Deleted grid (grid.blankBlocks ((indexes.map (· + 1)).map (Region.rowSpan span))) span
      indexes := by
  obtain ⟨⟨top, left, -, wide⟩, bottom, right⟩ := Grid.inside_of_check readable
  have within : ∀ line ∈ indexes.map (span.row + ·), 1 ≤ line ∧ line ≤ grid.maxRows := by
    intro line member
    obtain ⟨index, listed, rfl⟩ := List.mem_map.1 member
    have below := inside index listed
    show 1 ≤ span.row + index ∧ span.row + index ≤ grid.rows.length
    omega
  have blanked := Grid.lines_blanked ⟨left, wide⟩ right within
  have blocks : (indexes.map (span.row + ·)).map (Region.across span) =
      (indexes.map (· + 1)).map (Region.rowSpan span) := by
    rw [List.map_map, List.map_map]
    apply List.map_congr_left
    intro index member
    have line : span.row + index = index + 1 + (span.row - 1) := by omega
    exact congrArg (Region.across span) line
  rw [blocks] at blanked
  refine ⟨blanked.name, blanked.maxRows, blanked.maxColumns, fun index member =>
    blanked.blanked _ (List.mem_map_of_mem member), fun row column outside => ?_⟩
  apply blanked.kept
  intro member
  obtain ⟨index, listed, rfl⟩ := List.mem_map.1 member
  exact outside index listed rfl

theorem clear_entities_inside {region : Region} {indexes : List Nat}
    (exact : region.sheet.grid.IsExact)
    (readable : region.sheet.grid.checkBounds region.span = .ok ())
    (inside : ∀ index ∈ indexes, index < region.span.rows) :
    ∃ after, Region.clearEntities indexes region = .ok () after ∧
      Deleted region.sheet.grid after.sheet.grid region.span indexes := by
  obtain ⟨row, -, -, bottom⟩ := Region.exact_of_readable exact readable
  have exactRows : region.sheet.grid.maxRows < exactBound := exact.1
  have bound : exactBound < Size.bound := by decide
  have positions : indexes.map (fun index => Size.wrapped (index + 1)) = indexes.map (· + 1) := by
    apply List.map_congr_left
    intro index member
    have below := inside index member
    exact Nat.mod_eq_of_lt (by omega)
  have rows : ∀ row ∈ indexes.map (· + 1), 1 ≤ row ∧ row ≤ region.span.rows := by
    intro row member
    obtain ⟨index, listed, rfl⟩ := List.mem_map.1 member
    exact ⟨Nat.succ_pos index, inside index listed⟩
  obtain ⟨after, cleared, blanked⟩ :=
    Region.clear_rows_inside region.sheet.cache exact readable rows
  refine ⟨after, ?_, ?_⟩
  · rw [Region.clearEntities, positions]
    exact cleared
  · rw [blanked]
    exact deleted_of_blank readable inside

theorem delete_of_steady {repository : Repository} (steady : repository.mapper.IsSteady)
    (filter : Filter) {region : Region} (exact : region.sheet.grid.IsExact)
    (readable : region.sheet.grid.checkBounds region.span = .ok ()) :
    ∃ deletion after, repository.findAndDelete filter region = .ok deletion after ∧
      deletion.indexes = matching repository.mapper filter (region.sheet.grid.block region.span) ∧
      Deleted region.sheet.grid after.sheet.grid region.span deletion.indexes := by
  have scanned := Region.scan_apply repository.mapper (collectIndexes filter false) [] region
  rw [Grid.read_ok_iff.2 ⟨readable, rfl⟩] at scanned
  have inside : ∀ index ∈ matching repository.mapper filter (region.sheet.grid.block region.span),
      index < region.span.rows := by
    intro index member
    obtain ⟨row, found, -⟩ := mem_matching_iff.1 member
    have below := (List.getElem?_eq_some_iff.1 found).1
    rwa [Grid.length_block readable] at below
  obtain ⟨after, cleared, blanked⟩ := clear_entities_inside exact readable inside
  have sequence : repository.findAndDelete filter region =
      (Region.clearEntities (matching repository.mapper filter
          (region.sheet.grid.block region.span)) >>= fun _ =>
        pure ⟨matching repository.mapper filter (region.sheet.grid.block region.span)⟩) region := by
    rw [findAndDelete, delete, Action.bind_of_ok scanned, ← scanned_indexes steady]
  refine ⟨_, after, ?_, rfl, blanked⟩
  rw [sequence, Action.bind_of_ok cleared]
  rfl

/-- A deletion of exactly the rows of a region whose entities a filter accepts. -/
structure ExactDeletion (repository : Repository) (filter : Filter) (before after : Region)
    (deletion : Deletion) : Prop where
  ascending : deletion.indexes.Pairwise (· < ·)
  matching : ∀ index, index ∈ deletion.indexes ↔ index < before.span.rows ∧
    filter.accepts (repository.mapper.load (before.sheet.grid.rowFrom before.span.column
      before.span.columns (before.span.row + index)) index).1 = true
  counter : deletion.counter = deletion.indexes.length
  deleted : deletion.deleted = true ↔ deletion.indexes ≠ []
  grid : Deleted before.sheet.grid after.sheet.grid before.span deletion.indexes

/-- Whatever has happened to a data source before, a deletion succeeds where a search does, and
blanks the rows of what the search finds. -/
theorem delete_blanks_matching_rows {source : DataSource} (reachable : source.Reachable)
    (exact : ∀ grid ∈ source.workbook.sheets, grid.IsExact) {selector : Selector} {filter : Filter}
    {found : List Entity} {searched : DataSource}
    (finds : DataSource.run selector (fun repository => repository.find filter) source =
      .ok found searched) :
    ∃ connected place binding region deletion after,
      source.Access selector connected place binding region ∧
      DataSource.run selector (fun repository => repository.findAndDelete filter) source =
        .ok deletion (connected.putRegion place binding after) ∧
      ExactDeletion binding.repository filter region after deletion ∧
      deletion.counter = found.length := by
  obtain ⟨connected, place, binding, region, looked, access, finds, -⟩ :=
    DataSource.run_ok_iff.1 finds
  have steady := DataSource.steady_of_access reachable access
  have exactGrid := exact _ (List.mem_of_getElem? (DataSource.grid_of_access access))
  obtain ⟨readable, -, same⟩ := (find_ok_iff steady).1 finds
  obtain ⟨deletion, after, deletes, indexes, blanked⟩ :=
    delete_of_steady steady filter exactGrid readable
  refine ⟨connected, place, binding, region, deletion, after, access,
    DataSource.run_ok_iff.2 ⟨connected, place, binding, region, after, access, deletes, rfl⟩,
    ⟨?_, ?_, rfl, ?_, blanked⟩, ?_⟩
  · rw [indexes]
    exact matching_ascends _ _ _
  · intro index
    rw [indexes, mem_matching_iff, steady _ index]
    constructor
    · rintro ⟨row, listed, accepted⟩
      obtain ⟨below, rfl⟩ := (Grid.block_row_iff readable).1 listed
      exact ⟨below, accepted⟩
    · rintro ⟨below, accepted⟩
      exact ⟨_, (Grid.block_row_iff readable).2 ⟨below, rfl⟩, accepted⟩
  · simp [Deletion.deleted]
  · rw [same, Deletion.counter, indexes, length_matching]

theorem delete_second_person :
    ∃ connected place binding region deletion after,
      twoPeople.Access (.name "people") connected place binding region ∧
      DataSource.run (.name "people")
        (fun repository =>
          repository.findAndDelete (Filter.empty.whereEquals "name" (.string "Bob")))
          twoPeople = .ok deletion (connected.putRegion place binding after) ∧
      ExactDeletion binding.repository (Filter.empty.whereEquals "name" (.string "Bob")) region
        after deletion ∧
      deletion.counter = 1 := by
  have exact : ∀ grid ∈ twoPeople.workbook.sheets, grid.IsExact :=
    List.forall_mem_singleton.2 ⟨by decide, by decide⟩
  have finds : DataSource.run (.name "people")
      (fun repository => repository.find (Filter.empty.whereEquals "name" (.string "Bob")))
        twoPeople = .ok [.ofList [("name", .string "Bob")]] twoPeople := rfl
  exact delete_blanks_matching_rows two_people_reachable exact finds

end Repository

end GridStore
