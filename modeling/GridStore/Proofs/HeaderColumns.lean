import GridStore.Proofs.Columns
import GridStore.Proofs.Region.Columns

/-!
Columns found by their headers. A header is looked for in the first row of the block of headers and
counts from its left, a cell is taken from a row of the data block and counts from the left of that
one. Both blocks are measured apart, and the columns of the data block stay, so what a field is
loaded from lies below its header as long as both blocks begin in one column.
-/

set_option autoImplicit false

namespace GridStore

namespace Schema

/-- A field is declared by one header, however often. -/
structure IsTitled (schema : Schema) (field title : String) : Prop where
  declared : ∃ column, (field, column) ∈ schema.columns
  titled : ∀ column, (field, column) ∈ schema.columns → column.selector = .header title

variable {schema : Schema} {map : ColumnMap} {names : List String} {field title : String}

theorem loads_from_title (titled : schema.IsTitled field title)
    (built : ColumnMap.build schema.columns names = .ok map) :
    ∃ index, names.findIdx? (fun name => name == title) = some index ∧
      map.loadsFrom? field = some index := by
  obtain ⟨column, member⟩ := titled.declared
  obtain ⟨last, found⟩ := named_of_mem (List.mem_reverse.2 member)
  have selected := titled.titled last (List.mem_reverse.1 (mem_of_named found))
  obtain ⟨index, loads, located⟩ := named_reversed
    (fun column index => ColumnMap.locate names column.selector = .ok index)
    (ColumnMap.entries_of_build built) found
  refine ⟨index, ?_, loads⟩
  rw [selected, ColumnMap.locate] at located
  cases here : names.findIdx? fun name => name == title with
  | none =>
      rw [here] at located
      cases located
  | some place =>
      rw [here] at located
      rw [Except.ok.inj located]

end Schema

namespace Grid

/-- The first column under the first row of headers whose text there is a title. -/
structure FirstTitled (grid : Grid) (headers : Span) (title : String) (column : Nat) : Prop where
  inside : headers.column ≤ column ∧ column ≤ headers.lastColumn
  titled : ∃ cell, grid.cell? headers.row column = some cell ∧ cell.display = title
  first : ∀ other cell, headers.column ≤ other → other < column →
    grid.cell? headers.row other = some cell → cell.display ≠ title

variable {grid : Grid}

theorem first_titled_of_found {headers : Span} {title : String} {index : Nat}
    (readable : grid.checkBounds headers = .ok ())
    (found : ((grid.rowFrom headers.column headers.columns headers.row).map
      Cell.display).findIdx? (fun name => name == title) = some index) :
    grid.FirstTitled headers title (headers.column + index) := by
  obtain ⟨⟨-, -, tall, -⟩, -⟩ := inside_of_check readable
  obtain ⟨bound, hit, before⟩ := List.findIdx?_eq_some_iff_getElem.1 found
  have length : ((grid.rowFrom headers.column headers.columns headers.row).map
      Cell.display).length = headers.columns := by simp [rowFrom]
  -- Within the headers the names are the texts of cells that are there.
  have shown : ∀ place < headers.columns, ∃ cell,
      grid.cell? headers.row (headers.column + place) = some cell ∧
        ((grid.rowFrom headers.column headers.columns headers.row).map
          Cell.display)[place]? = some cell.display := by
    intro place inside
    obtain ⟨cell, held⟩ := cell_of_readable readable tall inside
    refine ⟨cell, held, ?_⟩
    rw [Nat.add_zero] at held
    rw [List.getElem?_map, row_from_cell _ _ _ inside, held]
    rfl
  rw [length] at bound
  constructor
  · rw [Span.lastColumn]
    omega
  · obtain ⟨cell, held, named⟩ := shown index bound
    refine ⟨cell, held, ?_⟩
    rw [List.getElem?_eq_getElem (by rwa [length])] at named
    rw [← Option.some.inj named]
    simpa using hit
  · intro other cell low high present
    obtain ⟨place, rfl⟩ := Nat.exists_eq_add_of_le low
    have early : place < index := Nat.lt_of_add_lt_add_left high
    obtain ⟨same, held, named⟩ := shown place (Nat.lt_trans early bound)
    obtain rfl := Option.some.inj (held.symm.trans present)
    rw [List.getElem?_eq_getElem (by rw [length]; omega)] at named
    rw [← Option.some.inj named]
    simpa using before place early

end Grid

/-- How a field is read from a row of a region, told from the column of its header: as far right in
the block as the header is in the headers, which is the column of the header if both begin in one
column. Where the block ends before, the field is read from a blank. -/
structure Repository.ReadsUnder (repository : Repository) (transform : Transform Cell)
    (field : String) (headers : Span) (column : Nat) (region : Region) (offset : Nat) (row : Row) :
    Prop where
  shifted : column - headers.column < region.span.columns →
    repository.mapper.rows.rawCell? row field = region.sheet.grid.cell? (region.span.row + offset)
      (region.span.column + (column - headers.column))
  beyond : region.span.columns ≤ column - headers.column →
    repository.mapper.rows.rawCell? row field = some .empty
  aligned : region.span.column = headers.column → column ≤ region.span.lastColumn →
    repository.mapper.rows.rawCell? row field =
      region.sheet.grid.cell? (region.span.row + offset) column
  loaded : (repository.mapper.rows.toEntity row).get? field =
    (repository.mapper.rows.rawCell? row field).map transform.applyLoad

theorem Repository.reads_under {schema : Schema} {map : ColumnMap} {field : String} {index : Nat}
    (loads : map.loadsFrom? field = some index) {headers : Span} {region after : Region}
    {rows : List Row} (read : Region.values region = .ok rows after) {offset : Nat} {row : Row}
    (listed : rows[offset]? = some row) :
    ReadsUnder ⟨map, schema.mapper map⟩ (schema.transformOf field) field headers
      (headers.column + index) region offset row := by
  obtain ⟨readable, rfl, -⟩ := Region.values_ok_iff.1 read
  obtain ⟨⟨-, left, -, wide⟩, -⟩ := Grid.inside_of_check readable
  obtain ⟨inside, past⟩ := Grid.block_cell readable listed index
  have raw : (schema.mapper map).rows.rawCell? row field = some (row.getD index .empty) :=
    (schema.mapper map).rows.raw_cell loads row
  have shift : headers.column + index - headers.column = index := Nat.add_sub_cancel_left _ _
  constructor
  · intro fits
    rw [shift] at fits ⊢
    rw [raw, inside fits]
  · intro ends
    rw [shift] at ends
    rw [raw, past ends]
  · intro same reach
    rw [Span.lastColumn, same] at reach
    rw [raw, inside (by omega), same]
  · exact schema.entity_field map row field

namespace DataSource

variable {source opened : DataSource} {selector : Selector} {schema : Schema} {place : Nat}
  {binding : Binding} {grid : Grid} {field title : String}

/-- A field that is declared by a header reads, in every scan from the moment its repository is
opened, the column that lies as far right in the data block as the first column with that header in
the headers. The data block keeps its columns, so that is the column of the header itself as long as
both blocks begin in the same one and the data block reaches it, as it does by default. -/
theorem fields_read_under_headers
    (opens : Opens source selector schema opened place binding grid)
    (titled : schema.IsTitled field title) (events : List Event) :
    ∃ ranges ranged headers column held region,
      EntityRanges.resolve schema.ranges { grid } = .ok ranges ranged ∧
      ranges.headers = some headers ∧ grid.FirstTitled headers title column ∧
      (opened.afterAll events).Access selector (opened.afterAll events) place held region ∧
      held.sheet = binding.sheet ∧ held.repository = binding.repository ∧
      (Address.IsKept ranges.data.column → region.span.column = ranges.data.column) ∧
      (Address.IsKept ranges.data.columns → region.span.columns = ranges.data.columns) ∧
      ∀ rows after, Region.values region = .ok rows after →
        ∀ offset row, rows[offset]? = some row →
          held.repository.ReadsUnder (schema.transformOf field) field headers column region
              offset row ∧
            (schema.ranges.data = none → grid.maxColumns < exactBound →
              held.repository.mapper.rows.rawCell? row field =
                region.sheet.grid.cell? (region.span.row + offset) column) := by
  obtain ⟨ranges, ranged, names, read, map, resolved, named, built, repository, span⟩ := opens.built
  obtain ⟨index, found, loads⟩ := Schema.loads_from_title titled built
  cases headed : ranges.headers with
  | none =>
      rw [headed] at named
      cases named
      cases found
  | some headers =>
      rw [headed] at named
      have readable := (header_names_ok_iff.1 ⟨names, named⟩).1
      have listedNames := header_names_eq named
      rw [EntityRanges.grid_of_resolved resolved] at readable listedNames
      rw [listedNames] at found
      have first := Grid.first_titled_of_found readable found
      have access := opens.access
      have followed : (followingFrame Grid.changingFrame Region.columnsFrame selector place
          binding.sheet).related opened (opened.afterAll events) :=
        followed_after_all Region.columns_rely (fun event _ => event.within_any) opened
      obtain ⟨later, there, -, follows⟩ := followed grid (grid_of_access access)
      obtain ⟨held, placed, same, column, columns⟩ := follows binding (placed_of_access access)
      have again := access_of_placed placed there
      rw [span] at column columns
      refine ⟨ranges, ranged, headers, headers.column + index, held, _, resolved, headed, first,
        again, placed.located, same, column, columns, ?_⟩
      intro rows after values offset row listed
      rw [same, repository]
      have reads : Repository.ReadsUnder ⟨map, schema.mapper map⟩ (schema.transformOf field) field
          headers (headers.column + index) ⟨⟨later, held.cache⟩, held.span⟩ offset row :=
        Repository.reads_under loads values listed
      refine ⟨reads, fun unsaid exact => ?_⟩
      obtain ⟨keptColumn, sameColumn, keptColumns, sameColumns⟩ :=
        EntityRanges.columns_unplaced unsaid resolved headed readable exact
      apply reads.aligned
      · exact (column keptColumn).trans sameColumn
      · have reach := first.inside.2
        rw [Span.lastColumn] at reach ⊢
        rw [column keptColumn, columns keptColumns, sameColumn, sameColumns]
        exact reach

section Numbered

/-! A person with a number, on a sheet with a title over each. -/

def numberedPeople : Grid :=
  .ofRows "people" [[.string "no", .string "name"], [.string "1", .string "Ann"]]

def numberedSchema (headers data : Span) : Schema where
  selector := .name "people"
  ranges :=
    { headers := some (.ofResolver fun _ => .ok headers)
      data := some (.ofResolver fun _ => .ok data) }
  columns := [("name", ⟨.header "name", false, {}⟩)]
  transform := {}

def numberedSource (headers data : Span) : DataSource :=
  ⟨⟨"book", [numberedPeople]⟩, [numberedSchema headers data], []⟩

def numberedBinding (headers data : Span) (index : Nat) : Binding where
  selector := .name "people"
  repository := ⟨⟨[("name", index)]⟩, (numberedSchema headers data).mapper ⟨[("name", index)]⟩⟩
  sheet := 0
  cache := .empty
  span := data

def OpensNumbered (headers data : Span) (index : Nat) : Prop :=
  Opens (numberedSource headers data) (.name "people") (numberedSchema headers data)
    { numberedSource headers data with bindings := [numberedBinding headers data index] } 0
    (numberedBinding headers data index) numberedPeople

theorem numbered_is_titled (headers data : Span) :
    (numberedSchema headers data).IsTitled "name" "name" where
  declared := ⟨_, List.mem_singleton_self _⟩
  titled := by
    intro column member
    rw [(Prod.mk.inj (List.mem_singleton.1 member)).2]

/-- Another person comes below, without the repository taking part, and is read by name too. -/
theorem numbered_people_read_by_name :
    OpensNumbered ⟨1, 1, 1, 2⟩ ⟨2, 1, 1, 2⟩ 1 ∧
      (numberedSchema ⟨1, 1, 1, 2⟩ ⟨2, 1, 1, 2⟩).IsTitled "name" "name" ∧
      ∃ state held region,
        ({ numberedSource ⟨1, 1, 1, 2⟩ ⟨2, 1, 1, 2⟩ with
            bindings := [numberedBinding ⟨1, 1, 1, 2⟩ ⟨2, 1, 1, 2⟩ 1] } : DataSource).afterAll
          [.change 0 fun grid => grid.write ⟨3, 1, 1, 2⟩ [[.string "2", .string "Bob"]],
            .ask (.name "people") (.sort (some "name") none)] = state ∧
        Access state (.name "people") state 0 held region ∧
        ∀ rows after, Region.values region = .ok rows after →
          ∀ offset row, rows[offset]? = some row →
            held.repository.mapper.rows.rawCell? row "name" =
              region.sheet.grid.cell? (region.span.row + offset) 2 := by
  have opens : OpensNumbered ⟨1, 1, 1, 2⟩ ⟨2, 1, 1, 2⟩ 1 := ⟨rfl, rfl, rfl, rfl, rfl⟩
  obtain ⟨ranges, ranged, headers, column, held, region, resolved, headed, first, access, -, -,
    left, width, reads⟩ := fields_read_under_headers opens (numbered_is_titled _ _)
      [.change 0 fun grid => grid.write ⟨3, 1, 1, 2⟩ [[.string "2", .string "Bob"]],
        .ask (.name "people") (.sort (some "name") none)]
  have blocks : EntityRanges.resolve (numberedSchema ⟨1, 1, 1, 2⟩ ⟨2, 1, 1, 2⟩).ranges
      { grid := numberedPeople } = .ok ⟨some ⟨1, 1, 1, 2⟩, ⟨2, 1, 1, 2⟩⟩ _ := rfl
  rw [blocks] at resolved
  cases resolved
  obtain rfl := Option.some.inj headed
  have second : column = 2 := by
    obtain ⟨cell, present, shown⟩ := first.titled
    have low : 1 ≤ column := first.inside.1
    have high : column ≤ 2 := first.inside.2
    obtain rfl | rfl : column = 1 ∨ column = 2 := by omega
    · cases present
      exact absurd shown (by decide)
    · rfl
  subst second
  have sameLeft : region.span.column = 1 :=
    left (Address.kept_of_exact (Nat.le_refl 1) (by decide))
  have sameWidth : region.span.columns = 2 :=
    width (Address.kept_of_exact (Nat.le_succ 1) (by decide))
  refine ⟨opens, numbered_is_titled _ _, _, held, region, rfl, access, ?_⟩
  intro rows after values offset row listed
  apply (reads rows after values offset row listed).1.aligned
  · exact sameLeft
  · rw [Span.lastColumn, sameLeft, sameWidth]

def ReadsInstead (headers data : Span) (index : Nat) (instead : Cell) : Prop :=
  OpensNumbered headers data index ∧ numberedPeople.FirstTitled headers "name" 2 ∧
    numberedPeople.cell? 2 2 = some (.string "Ann") ∧
    ∃ row, Region.values ⟨⟨numberedPeople, .empty⟩, data⟩ =
        .ok [row] ⟨⟨numberedPeople, .empty⟩, data⟩ ∧
      (numberedBinding headers data index).repository.mapper.rows.rawCell? row "name" =
        some instead

/-- A data block may begin left of the headers, or end before the header. -/
theorem header_columns_may_differ :
    ReadsInstead ⟨1, 2, 1, 1⟩ ⟨2, 1, 1, 2⟩ 0 (.string "1") ∧
      ReadsInstead ⟨1, 1, 1, 2⟩ ⟨2, 1, 1, 1⟩ 1 .empty := by
  have titled : ∃ cell, numberedPeople.cell? 1 2 = some cell ∧ cell.display = "name" :=
    ⟨_, rfl, rfl⟩
  constructor
  · refine ⟨⟨rfl, rfl, rfl, rfl, rfl⟩, ⟨by decide, titled, ?_⟩, rfl, _, rfl, rfl⟩
    intro other cell low high
    exact absurd low (Nat.not_le.2 high)
  · refine ⟨⟨rfl, rfl, rfl, rfl, rfl⟩, ⟨by decide, titled, ?_⟩, rfl, _, rfl, rfl⟩
    intro other cell low high present
    obtain rfl : other = 1 := Nat.le_antisymm (Nat.le_of_lt_succ high) low
    cases present
    decide

end Numbered

end DataSource

end GridStore
