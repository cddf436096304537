import GridStore.Proofs.Insert

/-!
Reading back what was inserted. A search right after an insertion returns the rows from the corner
of the region down to the bottom of the sheet: the inserted ones are all among them only if the
region begins no lower than they do, and only if the sheet is as wide as the region.
-/

set_option autoImplicit false

namespace GridStore

theorem RowMapper.to_entity_congr {mapper : RowMapper} {left right : Row}
    (same : ∀ entry ∈ mapper.map.entries, left.getD entry.2 .empty = right.getD entry.2 .empty) :
    mapper.toEntity left = mapper.toEntity right := by
  have fields : ∀ entry ∈ mapper.map.entries,
      (entry.1, mapper.loadField left entry.1 entry.2) =
        (entry.1, mapper.loadField right entry.1 entry.2) := by
    intro entry member
    rw [loadField, loadField, same entry member]
  exact congrArg Entity.ofList (List.map_congr_left fields)

theorem EntityMapper.load_congr {mapper : EntityMapper} {left right : Row}
    (same : ∀ entry ∈ mapper.rows.map.entries,
      left.getD entry.2 .empty = right.getD entry.2 .empty)
    (index : Nat) : mapper.load left index = mapper.load right index := by
  rw [load, load, RowMapper.to_entity_congr same]

namespace Repository

section Rows

variable {before after : Grid} {last column width : Nat} {values : List Row}

theorem row_from_other (added : AddedBelow before after last column width values) {row : Nat}
    (outside : row ≤ last ∨ last + values.length < row) (left columns : Nat) :
    after.rowFrom left columns row = before.rowFrom left columns row := by
  apply List.map_congr_left
  intro offset member
  have apart : ¬((last < row ∧ row ≤ last + values.length) ∧
      column ≤ left + offset ∧ left + offset < column + width) := by omega
  cases held : before.cell? row (left + offset) with
  | some cell => rw [added.kept row (left + offset) cell apart held]
  | none =>
      cases grown : after.cell? row (left + offset) with
      | none => rfl
      | some cell => rw [added.fresh row (left + offset) cell apart held grown]; rfl

theorem row_from_added (added : AddedBelow before after last column width values)
    {offset columns index : Nat} {row : Row} (listed : values[offset]? = some row)
    (wide : width ≤ columns) (inside : index < width) :
    (after.rowFrom column columns (last + 1 + offset)).getD index .empty =
      row.getD index .empty := by
  have short : index < row.length := by
    rw [added.even row (List.mem_of_getElem? listed)]
    exact inside
  have found := List.getElem?_eq_getElem short
  have held := added.holds offset row index row[index] listed found
  have counted : index < columns := Nat.lt_of_lt_of_le inside wide
  rw [List.getD_eq_getElem?_getD, Grid.row_from_cell _ _ _ counted, held,
    List.getD_eq_getElem?_getD, found]
  rfl

end Rows

section Order

variable {entity : Nat → Entity} {back : List Entity} {row last bottom : Nat}

theorem rows_to_bottom (inside : row ≤ bottom) (room : last + back.length ≤ bottom) :
    List.range' row (bottom + 1 - row) =
      List.range' row (last + 1 - row) ++
        (List.range' (max row (last + 1)) (last + back.length + 1 - max row (last + 1)) ++
          List.range' (max row (last + back.length + 1))
            (bottom + 1 - max row (last + back.length + 1))) := by
  have split : ∀ first second third, List.range' row (first + (second + third)) =
      List.range' row first ++
        (List.range' (row + first) second ++ List.range' (row + first + second) third) := by
    intro first second third
    rw [List.range'_append_1, List.range'_append_1]
  have total : bottom + 1 - row = last + 1 - row + (last + back.length + 1 - max row (last + 1) +
      (bottom + 1 - max row (last + back.length + 1))) := by omega
  have middle : row + (last + 1 - row) = max row (last + 1) := by omega
  have beyond : max row (last + 1) + (last + back.length + 1 - max row (last + 1)) =
      max row (last + back.length + 1) := by omega
  rw [total, split, middle, beyond]

theorem new_rows (reads : ∀ offset read, back[offset]? = some read →
    entity (last + 1 + offset) = read) :
    (List.range' (max row (last + 1)) (last + back.length + 1 - max row (last + 1))).map entity =
      back.drop (row - (last + 1)) := by
  apply List.ext_getElem?
  intro index
  rw [List.getElem?_map, List.getElem?_drop]
  by_cases inside : index < last + back.length + 1 - max row (last + 1)
  · have position : max row (last + 1) + index = last + 1 + (row - (last + 1) + index) := by omega
    have below : row - (last + 1) + index < back.length := by omega
    have found := List.getElem?_eq_getElem below
    rw [List.getElem?_range' inside, Nat.one_mul, Option.map_some, position, reads _ _ found, found]
  · rw [List.getElem?_eq_none (by simpa using inside), List.getElem?_eq_none (by omega)]
    rfl

theorem infix_of_order (back below : List Entity) {older : List Entity}
    (above : last + 1 < row → older = []) :
    back <:+: older ++ (back.drop (row - (last + 1)) ++ below) ↔
      row ≤ last + 1 ∨ back <:+: back.drop (row - (last + 1)) ++ below := by
  by_cases high : row ≤ last + 1
  · have none : row - (last + 1) = 0 := by omega
    rw [none, List.drop_zero]
    constructor
    · exact fun _ => Or.inl high
    · exact fun _ => ⟨older, below, List.append_assoc _ _ _⟩
  · rw [above (by omega), List.nil_append]
    simp [high]

/-- A list that begins later in itself, with others behind it, is made of those others. -/
theorem mem_below_of_shifted {below : List Entity} {skipped : Nat} (positive : 0 < skipped)
    (inside : back <:+: back.drop skipped ++ below) {read : Entity} (member : read ∈ back) :
    read ∈ below := by
  obtain ⟨front, rest, same⟩ := inside
  have later : ∀ index, index < back.length →
      (back.drop skipped ++ below)[front.length + index]? = back[index]? := by
    intro index bound
    rw [← same, List.append_assoc, List.getElem?_append_right (Nat.le_add_right _ _),
      Nat.add_sub_cancel_left, List.getElem?_append_left bound]
  -- An element found in the list itself again stands nearer to its end there.
  have reached : ∀ distance index read, back.length - index = distance →
      back[index]? = some read → read ∈ below := by
    intro distance
    induction distance using Nat.strong_induction_on with
    | _ distance induction =>
        intro index read far found
        have bound := (List.getElem?_eq_some_iff.1 found).1
        have shifted := later index bound
        rw [found] at shifted
        by_cases own : front.length + index < (back.drop skipped).length
        · rw [List.getElem?_append_left own, List.getElem?_drop] at shifted
          exact induction _ (by omega) _ read rfl shifted
        · rw [List.getElem?_append_right (Nat.le_of_not_lt own)] at shifted
          exact List.mem_of_getElem? shifted
  obtain ⟨index, found⟩ := List.getElem?_of_mem member
  exact reached _ index read rfl found

end Order

/-- The block of a region after an insertion: the corner is where it was, and the block reaches the
bottom of the grid, whatever it did before. -/
structure Settled (before after : Region) (width : Nat) : Prop where
  inside : 1 ≤ before.span.row ∧ before.span.row ≤ after.sheet.grid.maxRows
  row : after.span.row = before.span.row
  rows : after.span.rows = after.sheet.grid.maxRows - (before.span.row - 1)
  column : after.span.column = before.span.column
  proper : 1 ≤ after.span.column ∧ 1 ≤ after.span.columns
  columns : after.span.columns < exactBound ∨ max 1 before.span.columns ≤ exactBound →
    after.span.columns = max 1 before.span.columns ∧ width ≤ max 1 before.span.columns

theorem settled_of_insert {repository : Repository} {entities : List Entity} {region after : Region}
    (nonempty : entities ≠ []) (exact : region.sheet.grid.IsExact)
    (exactAfter : after.sheet.grid.IsExact)
    (inserts : repository.insertMany entities region = .ok () after) :
    Settled region after repository.mapper.rows.map.width := by
  rw [insert_many_apply nonempty] at inserts
  obtain ⟨measured, target, grid, appended⟩ := Region.appended_of_append exact.1 inserts
  obtain rfl : after.sheet.grid = grid := Region.grid_of_remeasure appended.remeasured
  obtain ⟨last, -, -⟩ := Region.measured_of_remeasure appended.remeasured exactAfter.1
  obtain ⟨-, column, columnExact⟩ := Region.column_of_appended appended exactAfter
  -- An append measures twice; the block that it settles in was measured from the one before.
  have first := appended.fits
  have narrow : repository.mapper.rows.map.width ≤ measured.columns := by
    have some : repository.mapper.toRows entities ≠ [] := by
      rw [← List.length_pos_iff, EntityMapper.length_to_rows]
      exact List.length_pos_iff.2 nonempty
    obtain ⟨row, member⟩ := List.exists_mem_of_ne_nil _ some
    rw [← EntityMapper.width_of_to_rows member]
    exact appended.narrow row member
  have positive : max 1 measured.columns = measured.columns :=
    Nat.max_eq_right first.addressable.1.2.2.2
  refine ⟨?_, last.row.trans first.row, ?_, ?_,
    ⟨last.addressable.1.2.1, last.addressable.1.2.2.2⟩, ?_⟩
  · rw [← first.row]
    exact last.inside
  · rw [← first.row]
    exact last.rows
  · rw [← column]
    exact last.column (Or.inr (Nat.le_of_lt columnExact))
  · intro small
    have measuredColumns : measured.columns = max 1 region.span.columns := by
      rcases small with small | small
      · have same := last.columns (Or.inl small)
        rw [positive] at same
        exact first.columns (Or.inl (same ▸ small))
      · exact first.columns (Or.inr small)
    have bounded : after.span.columns < exactBound ∨ max 1 measured.columns ≤ exactBound := by
      rw [positive, measuredColumns]
      exact small
    have same := last.columns bounded
    rw [positive, measuredColumns] at same
    exact ⟨same, measuredColumns ▸ narrow⟩

theorem readable_after_insert {before after : Region} {width : Nat}
    (settled : Settled before after width) (exactAfter : after.sheet.grid.IsExact) :
    after.sheet.grid.checkBounds after.span = .ok () ↔
      before.span.column + max 1 before.span.columns - 1 ≤ after.sheet.grid.maxColumns := by
  have exactColumns : after.sheet.grid.maxColumns < exactBound := exactAfter.2
  have column := settled.column
  have proper := settled.proper
  have inside := settled.inside
  rw [Grid.check_bounds_ok_iff, Span.lastRow, Span.lastColumn, settled.row, settled.rows]
  constructor
  · rintro ⟨-, -, right⟩
    have same := (settled.columns (Or.inl (by omega))).1
    rwa [column, same] at right
  · intro reach
    have same := (settled.columns (Or.inr (by omega))).1
    refine ⟨?_, by omega, ?_⟩
    · simp only [Span.isDegenerate, Bool.or_eq_false_iff, beq_eq_false_iff_ne, settled.row,
        settled.rows]
      omega
    · rw [column, same]
      exact reach

def readBack (mapper : EntityMapper) (entities : List Entity) : List Entity :=
  (mapper.scan .idle () (mapper.toRows entities)).1

theorem read_back_of_steady {mapper : EntityMapper} (steady : mapper.IsSteady)
    (entities : List Entity) :
    readBack mapper entities = (mapper.toRows entities).map fun row => (mapper.load row 0).1 := by
  rw [readBack, EntityMapper.scan_idle, EntityMapper.kept_of_steady steady]

theorem length_read_back {mapper : EntityMapper} (steady : mapper.IsSteady)
    (entities : List Entity) : (readBack mapper entities).length = entities.length := by
  rw [read_back_of_steady steady, List.length_map, EntityMapper.length_to_rows]

/-- The entities from one row of a grid down to the one before another, as a block of the grid
shows them. -/
def entitiesBetween (mapper : EntityMapper) (grid : Grid) (span : Span) (first next : Nat) :
    List Entity :=
  (List.range' first (next - first)).map fun row =>
    (mapper.load (grid.rowFrom span.column (max 1 span.columns) row) 0).1

theorem entities_between_congr (mapper : EntityMapper) (span : Span) {before after : Grid}
    {last column width : Nat} {values : List Row} {first next : Nat}
    (added : AddedBelow before after last column width values)
    (outside : ∀ row, first ≤ row → row < next → row ≤ last ∨ last + values.length < row) :
    entitiesBetween mapper after span first next =
      entitiesBetween mapper before span first next := by
  apply List.map_congr_left
  intro row member
  obtain ⟨above, below⟩ := List.mem_range'_1.1 member
  rw [row_from_other added (outside row above (by omega))]

theorem entity_of_added {mapper : EntityMapper} (steady : mapper.IsSteady) {before after : Grid}
    {last column columns : Nat} {entities : List Entity}
    (added : AddedBelow before after last column mapper.rows.map.width (mapper.toRows entities))
    (wide : mapper.rows.map.width ≤ columns) {offset : Nat} {read : Entity}
    (listed : (readBack mapper entities)[offset]? = some read) :
    (mapper.load (after.rowFrom column columns (last + 1 + offset)) 0).1 = read := by
  rw [read_back_of_steady steady, List.getElem?_map] at listed
  obtain ⟨row, stored, rfl⟩ := Option.map_eq_some_iff.1 listed
  have fits : mapper.rows.map.Fits := (ColumnMap.width_pos_iff.1 added.positive).2
  rw [EntityMapper.load_congr fun entry member =>
    row_from_added added stored wide (ColumnMap.index_lt_width fits member)]

/-- Right after an insertion a region shows what it showed above the new rows and below them, and
of the new rows those that do not lie above its corner. -/
theorem entities_after_insert {repository : Repository} (steady : repository.mapper.IsSteady)
    {entities : List Entity} {region after : Region}
    (settled : Settled region after repository.mapper.rows.map.width)
    (added : AddedBelow region.sheet.grid after.sheet.grid region.sheet.grid.lastRow
      region.span.column repository.mapper.rows.map.width (repository.mapper.toRows entities))
    (exactAfter : after.sheet.grid.IsExact)
    (readable : after.sheet.grid.checkBounds after.span = .ok ()) :
    (after.sheet.grid.block after.span).map (fun row => (repository.mapper.load row 0).1) =
      entitiesBetween repository.mapper region.sheet.grid region.span region.span.row
          (region.sheet.grid.lastRow + 1) ++
        ((readBack repository.mapper entities).drop
            (region.span.row - (region.sheet.grid.lastRow + 1)) ++
          entitiesBetween repository.mapper region.sheet.grid region.span
            (max region.span.row (region.sheet.grid.lastRow + entities.length + 1))
            (after.sheet.grid.maxRows + 1)) := by
  have reach := (readable_after_insert settled exactAfter).1 readable
  have exactColumns : after.sheet.grid.maxColumns < exactBound := exactAfter.2
  have proper := settled.proper
  have column := settled.column
  have inside := settled.inside
  obtain ⟨columns, wide⟩ := settled.columns (Or.inr (by omega))
  have length := length_read_back steady entities
  have rows := repository.mapper.length_to_rows entities
  have bottom : region.sheet.grid.lastRow + (readBack repository.mapper entities).length ≤
      after.sheet.grid.maxRows := by
    rw [added.maxRows, length, rows]
    exact Nat.le_max_right _ _
  have height : after.span.rows = after.sheet.grid.maxRows + 1 - region.span.row := by
    rw [settled.rows]
    omega
  have shown : (after.sheet.grid.block after.span).map
      (fun row => (repository.mapper.load row 0).1) =
      entitiesBetween repository.mapper after.sheet.grid region.span region.span.row
        (after.sheet.grid.maxRows + 1) := by
    rw [Grid.block_eq_rows readable, settled.row, height, column, columns, List.map_map]
    rfl
  have older : entitiesBetween repository.mapper after.sheet.grid region.span region.span.row
      (region.sheet.grid.lastRow + 1) = _ :=
    entities_between_congr repository.mapper region.span added
      fun row _ before => Or.inl (Nat.le_of_lt_succ before)
  have below : entitiesBetween repository.mapper after.sheet.grid region.span
      (max region.span.row (region.sheet.grid.lastRow + entities.length + 1))
      (after.sheet.grid.maxRows + 1) = _ :=
    entities_between_congr repository.mapper region.span added
      fun row beyond _ => Or.inr (by rw [rows]; omega)
  rw [shown, entitiesBetween, rows_to_bottom inside.2 bottom, List.map_append, List.map_append,
    new_rows fun offset read listed => entity_of_added steady added wide listed, length]
  exact congrArg₂ _ older (congrArg _ below)

/-- When the entities of an insertion are found again through the region they were inserted into.
The sheet has to be as wide as the region then; and the region has to begin no lower than the new
rows, unless those that it shows happen to be followed by rows that read alike. -/
def FindsInserted (repository : Repository) (region : Region) (entities : List Entity) : Prop :=
  region.span.column + max 1 region.span.columns - 1 ≤
      max region.sheet.grid.maxColumns
        (region.span.column + repository.mapper.rows.map.width - 1) ∧
    (region.span.row ≤ region.sheet.grid.lastRow + 1 ∨
      readBack repository.mapper entities <:+:
        (readBack repository.mapper entities).drop
            (region.span.row - (region.sheet.grid.lastRow + 1)) ++
          entitiesBetween repository.mapper region.sheet.grid region.span
            (max region.span.row (region.sheet.grid.lastRow + entities.length + 1))
            (max region.sheet.grid.maxRows (region.sheet.grid.lastRow + entities.length) + 1))

theorem empty_filter_accepts (entity : Entity) : Filter.accepts entity .empty = true := rfl

theorem finds_inserted_iff {repository : Repository} (steady : repository.mapper.IsSteady)
    {entities : List Entity} {region after : Region} (nonempty : entities ≠ [])
    (exact : region.sheet.grid.IsExact) (exactAfter : after.sheet.grid.IsExact)
    (inserts : repository.insertMany entities region = .ok () after) :
    (∃ found searched, repository.find .empty after = .ok found searched ∧
      readBack repository.mapper entities <:+: found) ↔
      FindsInserted repository region entities := by
  have settled := settled_of_insert nonempty exact exactAfter inserts
  have added := added_of_insert nonempty exact exactAfter inserts
  have readable := readable_after_insert settled exactAfter
  have above : region.sheet.grid.lastRow + 1 < region.span.row →
      entitiesBetween repository.mapper region.sheet.grid region.span region.span.row
        (region.sheet.grid.lastRow + 1) = [] := by
    intro low
    rw [entitiesBetween, Nat.sub_eq_zero_of_le (Nat.le_of_lt low)]
    rfl
  have order := infix_of_order (readBack repository.mapper entities)
    (entitiesBetween repository.mapper region.sheet.grid region.span
      (max region.span.row (region.sheet.grid.lastRow + entities.length + 1))
      (after.sheet.grid.maxRows + 1)) above
  rw [FindsInserted, ← added.maxColumns, ← readable,
    ← repository.mapper.length_to_rows entities, ← added.maxRows,
    repository.mapper.length_to_rows entities, ← order]
  have everything : ∀ found : List Entity, found.filter (Filter.accepts · .empty) = found :=
    fun found => List.filter_eq_self.2 fun entity _ => empty_filter_accepts entity
  constructor
  · rintro ⟨found, searched, finds, inside⟩
    obtain ⟨reads, -, same⟩ := (find_ok_iff steady).1 finds
    rw [everything, entities_after_insert steady settled added exactAfter reads] at same
    exact ⟨reads, same ▸ inside⟩
  · rintro ⟨reads, inside⟩
    have finds : repository.find .empty after = .ok _ after :=
      (find_ok_iff steady).2 ⟨reads, rfl, rfl⟩
    rw [everything, entities_after_insert steady settled added exactAfter reads] at finds
    exact ⟨_, _, finds, inside⟩

/-- A region that begins below the new rows misses some of them, so it finds the inserted entities
only if every one of them reads like a row further down. -/
theorem missed_below_corner {repository : Repository} {region : Region} {entities : List Entity}
    (low : region.sheet.grid.lastRow + 1 < region.span.row)
    (finds : FindsInserted repository region entities) {read : Entity}
    (member : read ∈ readBack repository.mapper entities) :
    read ∈ entitiesBetween repository.mapper region.sheet.grid region.span
      (max region.span.row (region.sheet.grid.lastRow + entities.length + 1))
      (max region.sheet.grid.maxRows (region.sheet.grid.lastRow + entities.length) + 1) := by
  have skipped : 0 < region.span.row - (region.sheet.grid.lastRow + 1) := Nat.sub_pos_of_lt low
  rcases finds.2 with high | inside
  · exact absurd low (Nat.not_lt.2 high)
  · exact mem_below_of_shifted skipped inside member

/-- A search for everything right after an insertion finds the inserted entities next to each other
and in order exactly if the region lies so that it can. -/
theorem inserted_are_found_iff {source : DataSource} (reachable : source.Reachable)
    {selector : Selector} {entities : List Entity} {inserted : DataSource}
    (nonempty : entities ≠ []) (exact : ∀ grid ∈ source.workbook.sheets, grid.IsExact)
    (exactAfter : ∀ grid ∈ inserted.workbook.sheets, grid.IsExact)
    (inserts : DataSource.run selector (fun repository => repository.insertMany entities) source =
      .ok () inserted) :
    ∃ connected place binding region,
      source.Access selector connected place binding region ∧
      ((∃ found searched,
          DataSource.run selector (fun repository => repository.find .empty) inserted =
            .ok found searched ∧
          readBack binding.repository.mapper entities <:+: found) ↔
        FindsInserted binding.repository region entities) := by
  obtain ⟨connected, place, binding, region, after, access, adds, rfl⟩ :=
    DataSource.run_ok_iff.1 inserts
  have steady := DataSource.steady_of_access reachable access
  have exactGrid := exact _ (List.mem_of_getElem? (DataSource.grid_of_access access))
  have again := DataSource.access_again access after
  refine ⟨connected, place, binding, region, access, ?_⟩
  rw [← finds_inserted_iff steady nonempty exactGrid (exact_after_put access exactAfter) adds]
  constructor
  · rintro ⟨found, searched, finds, inside⟩
    obtain ⟨looked, finds, -⟩ := (DataSource.run_of_access again).1 finds
    exact ⟨found, looked, finds, inside⟩
  · rintro ⟨found, looked, finds, inside⟩
    exact ⟨found, _, (DataSource.run_of_access again).2 ⟨looked, finds, rfl⟩, inside⟩

theorem inserted_person_is_found :
    ∃ inserted, DataSource.run (.name "people")
        (fun repository => repository.insertMany [person "Dan"]) twoPeople = .ok () inserted ∧
      ∃ connected place binding region,
        twoPeople.Access (.name "people") connected place binding region ∧
        ((∃ found searched,
            DataSource.run (.name "people") (fun repository => repository.find .empty) inserted =
              .ok found searched ∧
            readBack binding.repository.mapper [person "Dan"] <:+: found) ↔
          FindsInserted binding.repository region [person "Dan"]) := by
  have exact : ∀ grid ∈ twoPeople.workbook.sheets, grid.IsExact :=
    List.forall_mem_singleton.2 ⟨by decide, by decide⟩
  obtain ⟨after, -, exactAfter, inserts⟩ := insert_person "Dan" ⟨1, 1, 2, 1⟩
    (exact _ List.mem_cons_self) rfl (by decide)
  have exactFinal : ∀ grid ∈
      (twoPeople.putRegion 0 (peopleBinding ⟨1, 1, 2, 1⟩) after).workbook.sheets, grid.IsExact :=
    List.forall_mem_singleton.2 exactAfter
  exact ⟨_, inserts, inserted_are_found_iff two_people_reachable (by simp) exact exactFinal inserts⟩

def nobody : DataSource := peopleSource (.blank "people" 2 1) ⟨2, 1, 1, 1⟩

theorem nobody_reachable : nobody.Reachable :=
  ⟨nobody.workbook, { entities := [peopleOptions ⟨2, 1, 1, 1⟩] },
    ⟨nobody.workbook, nobody.schemas, []⟩, [.connect (.name "people")], rfl, rfl⟩

/-- The row of the person goes above the block. -/
theorem inserted_person_is_missed :
    ∃ source inserted, source.Reachable ∧
      DataSource.run (.name "people") (fun repository => repository.insertMany [person "Ann"])
        source = .ok () inserted ∧
      ∃ connected place binding region,
        source.Access (.name "people") connected place binding region ∧
        ¬∃ found searched,
          DataSource.run (.name "people") (fun repository => repository.find .empty) inserted =
            .ok found searched ∧
          readBack binding.repository.mapper [person "Ann"] <:+: found := by
  have exact : (Grid.blank "people" 2 1).IsExact := ⟨by decide, by decide⟩
  obtain ⟨after, adds, exactAfter, inserts⟩ :=
    insert_person "Ann" ⟨2, 1, 1, 1⟩ exact rfl (by decide)
  have access : nobody.Access (.name "people") nobody 0 (peopleBinding ⟨2, 1, 1, 1⟩)
      ⟨⟨.blank "people" 2 1, .empty⟩, ⟨2, 1, 1, 1⟩⟩ := ⟨rfl, rfl, rfl⟩
  refine ⟨nobody, _, nobody_reachable, inserts, nobody, 0, _, _, access, ?_⟩
  rintro ⟨found, searched, finds, inside⟩
  obtain ⟨looked, finds, -⟩ :=
    (DataSource.run_of_access (DataSource.access_again access after)).1 finds
  have steady : (peopleBinding ⟨2, 1, 1, 1⟩).repository.mapper.IsSteady := fun row index => rfl
  have lies := (finds_inserted_iff steady (List.cons_ne_nil _ _) exact exactAfter adds).1
    ⟨found, looked, finds, inside⟩
  have member : person "Ann" ∈
      readBack (peopleBinding ⟨2, 1, 1, 1⟩).repository.mapper [person "Ann"] := List.mem_cons_self
  have blank : person "Ann" ∈ [Entity.ofList [("name", .empty)]] :=
    missed_below_corner (by decide) lies member
  have same := congrArg (Entity.get? · "name") (List.mem_singleton.1 blank)
  exact absurd same (by decide)

end Repository

end GridStore
