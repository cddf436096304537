import GridStore.Proofs.DataSource.Run
import GridStore.Proofs.Row

/-!
Insertion: new rows go below everything on the sheet, from the first column of the region on. No
repository overwrites what another one, or anybody else, has put there.
-/

set_option autoImplicit false

namespace GridStore

namespace EntityMapper

theorem length_to_rows (mapper : EntityMapper) (entities : List Entity) :
    (mapper.toRows entities).length = entities.length := List.length_mapIdx

theorem width_of_to_rows {mapper : EntityMapper} {entities : List Entity} {row : Row}
    (member : row ∈ mapper.toRows entities) : row.length = mapper.rows.map.width := by
  obtain ⟨index, bound, rfl⟩ := List.mem_mapIdx.1 member
  exact RowMapper.length_to_row _ _

end EntityMapper

namespace Repository

/-- Rows put below all content of a grid, from a column on. Nothing else on the grid changes, and
where it grows it is blank. -/
structure AddedBelow (before after : Grid) (last column width : Nat) (values : List Row) :
    Prop where
  filled : before.IsLastFilledRow last
  name : after.name = before.name
  maxRows : after.maxRows = max before.maxRows (last + values.length)
  maxColumns : after.maxColumns = max before.maxColumns (column + width - 1)
  positive : 0 < width
  even : ∀ row ∈ values, row.length = width
  vacant : ∀ offset index cell, before.cell? (last + 1 + offset) index = some cell →
    cell.isBlank = true
  holds : ∀ offset row index cell, values[offset]? = some row → row[index]? = some cell →
    after.cell? (last + 1 + offset) (column + index) = some cell
  kept : ∀ row other cell,
    ¬((last < row ∧ row ≤ last + values.length) ∧ column ≤ other ∧ other < column + width) →
    before.cell? row other = some cell → after.cell? row other = some cell
  fresh : ∀ row other cell,
    ¬((last < row ∧ row ≤ last + values.length) ∧ column ≤ other ∧ other < column + width) →
    before.cell? row other = none → after.cell? row other = some cell → cell = .empty
  preserved : ∀ row other cell, before.cell? row other = some cell → cell.isBlank = false →
    after.cell? row other = some cell

theorem added_of_written {before after : Grid} {target : Span} {values : List Row} {width : Nat}
    (wrote : Grid.Written before after target values) (addressable : target.Addressable)
    (row : target.row = before.lastRow + 1) (nonempty : values ≠ [])
    (widths : ∀ row ∈ values, row.length = width) :
    AddedBelow before after before.lastRow target.column width values := by
  have filled := before.last_row_is_last_filled
  have shaped := wrote.shaped
  simp only [Grid.hasShape, Bool.and_eq_true, beq_iff_eq, List.all_eq_true] at shaped
  obtain ⟨height, even⟩ := shaped
  obtain ⟨first, member⟩ := List.exists_mem_of_ne_nil values nonempty
  have wide : target.columns = width := by rw [← even first member, widths first member]
  obtain ⟨⟨rowPositive, columnPositive, rowsPositive, columnsPositive⟩, -⟩ := addressable
  have covered : ∀ row' column', target.covers row' column' = true ↔
      (before.lastRow < row' ∧ row' ≤ before.lastRow + values.length) ∧
        target.column ≤ column' ∧ column' < target.column + width := by
    intro row' column'
    rw [Span.covers_iff, row, height, wide]
    omega
  have uncovered : ∀ row' column',
      ¬((before.lastRow < row' ∧ row' ≤ before.lastRow + values.length) ∧
        target.column ≤ column' ∧ column' < target.column + width) →
      target.covers row' column' = false := by
    intro row' column' outside
    rw [← covered] at outside
    exact Bool.eq_false_iff.2 outside
  refine ⟨filled, wrote.name, ?_, ?_, wide ▸ columnsPositive, widths, ?_, ?_, ?_, ?_, ?_⟩
  · rw [wrote.maxRows, Span.lastRow, row, height]
    omega
  · rw [wrote.maxColumns, Span.lastColumn, wide]
  · intro offset index cell held
    exact filled.1 _ _ cell (by omega) held
  · intro offset values' index cell listed found
    have below := (List.getElem?_eq_some_iff.1 listed).1
    have inside := (List.getElem?_eq_some_iff.1 found).1
    rw [widths values' (List.mem_of_getElem? listed)] at inside
    have hit := (covered (before.lastRow + 1 + offset) (target.column + index)).2 (by omega)
    rw [wrote.inside _ _ hit, row, Nat.add_sub_cancel_left, Nat.add_sub_cancel_left, Grid.valueAt?,
      listed]
    exact found
  · intro row' column' cell outside held
    exact wrote.kept row' column' cell (uncovered row' column' outside) held
  · intro row' column' cell outside missing held
    exact wrote.fresh row' column' cell (uncovered row' column' outside) missing held
  · intro row' column' cell held content
    refine wrote.kept row' column' cell (uncovered row' column' ?_) held
    rintro ⟨⟨below, -⟩, -⟩
    rw [filled.1 row' column' cell below held] at content
    cases content

theorem insert_many_apply {repository : Repository} {entities : List Entity}
    (nonempty : entities ≠ []) :
    repository.insertMany entities = Region.append (repository.mapper.toRows entities) := by
  rw [insertMany, Region.appendEntities, List.isEmpty_eq_false_iff.2 nonempty]
  rfl

theorem added_of_insert {repository : Repository} {entities : List Entity} {region after : Region}
    (nonempty : entities ≠ []) (exact : region.sheet.grid.IsExact)
    (exactAfter : after.sheet.grid.IsExact)
    (inserts : repository.insertMany entities region = .ok () after) :
    AddedBelow region.sheet.grid after.sheet.grid region.sheet.grid.lastRow region.span.column
      repository.mapper.rows.map.width (repository.mapper.toRows entities) := by
  rw [insert_many_apply nonempty] at inserts
  obtain ⟨measured, target, grid, appended⟩ := Region.appended_of_append exact.1 inserts
  obtain ⟨column, -⟩ := Region.column_of_appended appended exactAfter
  have wrote := Grid.written_of_write
    ⟨appended.addressable.1.1, appended.addressable.1.2.1⟩ appended.wrote
  have sameGrid : after.sheet.grid = grid := Region.grid_of_remeasure appended.remeasured
  rw [← sameGrid] at wrote
  rw [← column]
  refine added_of_written wrote appended.addressable appended.row ?_
    (fun row member => EntityMapper.width_of_to_rows member)
  intro none
  have length := repository.mapper.length_to_rows entities
  rw [none] at length
  exact nonempty (List.length_eq_zero_iff.1 length.symm)

theorem exact_after_put {source connected : DataSource} {selector : Selector} {place : Nat}
    {binding : Binding} {region after : Region}
    (access : source.Access selector connected place binding region)
    (exact : ∀ grid ∈ (connected.putRegion place binding after).workbook.sheets, grid.IsExact) :
    after.sheet.grid.IsExact := by
  obtain ⟨grid, present, -⟩ := Option.map_eq_some_iff.1 access.present
  apply exact
  exact List.mem_set (List.getElem?_eq_some_iff.1 present).1 _

/-- In whatever order repositories have been used and grids have been changed, an insertion that
succeeds adds its rows below the last row of the sheet with any content, and overwrites nothing.
Neither the blocks of the repositories nor their caches need to be up to date. -/
theorem insert_overwrites_nothing (start : DataSource) (events : List Event) {selector : Selector}
    {entities : List Entity} {final : DataSource} (nonempty : entities ≠ [])
    (exact : ∀ grid ∈ (start.afterAll events).workbook.sheets, grid.IsExact)
    (exactAfter : ∀ grid ∈ final.workbook.sheets, grid.IsExact)
    (inserts : DataSource.run selector (fun repository => repository.insertMany entities)
      (start.afterAll events) = .ok () final) :
    ∃ connected place binding region after,
      (start.afterAll events).Access selector connected place binding region ∧
      final = connected.putRegion place binding after ∧
      (∀ sheet, sheet ≠ binding.sheet →
        final.workbook.sheets[sheet]? = (start.afterAll events).workbook.sheets[sheet]?) ∧
      (binding.repository.mapper.toRows entities).length = entities.length ∧
      AddedBelow region.sheet.grid after.sheet.grid region.sheet.grid.lastRow region.span.column
        binding.repository.mapper.rows.map.width (binding.repository.mapper.toRows entities) := by
  obtain ⟨connected, place, binding, region, after, access, inserted, rfl⟩ :=
    DataSource.run_ok_iff.1 inserts
  have exactGrid := exact _ (List.mem_of_getElem? (DataSource.grid_of_access access))
  refine ⟨connected, place, binding, region, after, access, rfl, ?_,
    EntityMapper.length_to_rows _ _,
    added_of_insert nonempty exactGrid (exact_after_put access exactAfter) inserted⟩
  intro sheet other
  rw [← DataSource.workbook_of_access access]
  exact List.getElem?_set_ne (Ne.symm other)

def person (name : String) : Entity := .ofList [("name", .string name)]

theorem insert_person_into (name : String) (span : Span) (cache : MetricCache) {grid : Grid}
    (exact : grid.IsExact) (readable : grid.checkBounds span = .ok ())
    (room : grid.lastRow + 1 < exactBound) :
    ∃ after, (peopleBinding span).repository.insertMany [person name] ⟨⟨grid, cache⟩, span⟩ =
        .ok () after ∧ after.sheet.grid.IsExact := by
  have wide := (Region.exact_of_readable exact readable).2.2.1.1
  have widths : ∀ row ∈ [[Cell.string name]], row.length = 1 := by simp
  obtain ⟨after, appends, exactAfter⟩ := Region.append_inside cache exact readable
    (List.cons_ne_nil _ _) widths ⟨Nat.le_refl 1, wide⟩ room
  have stored : (peopleBinding span).repository.mapper.toRows [person name] =
      [[Cell.string name]] := rfl
  refine ⟨after, ?_, exactAfter⟩
  rw [insert_many_apply (List.cons_ne_nil _ _), stored]
  exact appends

theorem insert_person (name : String) (span : Span) {grid : Grid} (exact : grid.IsExact)
    (readable : grid.checkBounds span = .ok ()) (room : grid.lastRow + 1 < exactBound) :
    ∃ after, (peopleBinding span).repository.insertMany [person name] ⟨⟨grid, .empty⟩, span⟩ =
        .ok () after ∧
      after.sheet.grid.IsExact ∧
      DataSource.run (.name "people") (fun repository => repository.insertMany [person name])
        (peopleSource grid span) =
          .ok () ((peopleSource grid span).putRegion 0 (peopleBinding span) after) := by
  have access : (peopleSource grid span).Access (.name "people") (peopleSource grid span) 0
      (peopleBinding span) ⟨⟨grid, .empty⟩, span⟩ := ⟨rfl, rfl, rfl⟩
  obtain ⟨after, inserts, exactAfter⟩ := insert_person_into name span .empty exact readable room
  exact ⟨after, inserts, exactAfter,
    DataSource.run_ok_iff.2 ⟨_, 0, peopleBinding span, _, after, access, inserts, rfl⟩⟩

def peopleEvents : List Event :=
  [.ask (.name "people") (.find .empty),
    .change 0 fun grid => grid.write ⟨4, 1, 1, 1⟩ [[.string "Cid"]]]

theorem insert_below_unseen_change :
    ∃ final, DataSource.run (.name "people")
        (fun repository => repository.insertMany [person "Dan"])
          (twoPeople.afterAll peopleEvents) = .ok () final ∧
      ∃ connected place binding region after,
        (twoPeople.afterAll peopleEvents).Access (.name "people") connected place binding region ∧
        final = connected.putRegion place binding after ∧
        (∀ sheet, sheet ≠ binding.sheet → final.workbook.sheets[sheet]? =
          (twoPeople.afterAll peopleEvents).workbook.sheets[sheet]?) ∧
        (binding.repository.mapper.toRows [person "Dan"]).length = 1 ∧
        AddedBelow region.sheet.grid after.sheet.grid region.sheet.grid.lastRow region.span.column
          binding.repository.mapper.rows.map.width
          (binding.repository.mapper.toRows [person "Dan"]) := by
  have exact : ∀ grid ∈ (twoPeople.afterAll peopleEvents).workbook.sheets, grid.IsExact :=
    List.forall_mem_singleton.2 ⟨by decide, by decide⟩
  obtain ⟨after, -, exactAfter, inserts⟩ := insert_person "Dan" ⟨1, 1, 2, 1⟩
    (exact _ List.mem_cons_self) rfl (by decide)
  have exactFinal : ∀ grid ∈ ((twoPeople.afterAll peopleEvents).putRegion 0
      (peopleBinding ⟨1, 1, 2, 1⟩) after).workbook.sheets, grid.IsExact :=
    List.forall_mem_singleton.2 exactAfter
  exact ⟨_, inserts, insert_overwrites_nothing twoPeople peopleEvents (by simp) exact exactFinal
    inserts⟩

end Repository

end GridStore
