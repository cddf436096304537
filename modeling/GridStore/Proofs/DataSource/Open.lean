import GridStore.Proofs.DataSource.Run

/-!
Opening a repository for an entity with headers and no word on where its data lies: the data block
is the one right below the first row of the headers, across their width, and the headers lie on the
sheet.
-/

set_option autoImplicit false

namespace GridStore

theorem Sheet.values_ok_iff {sheet after : Sheet} {span : Span} {rows : List Row} :
    Sheet.values span sheet = .ok rows after ↔ sheet.grid.read span = .ok rows ∧ after = sheet := by
  rw [Sheet.values, Action.bind_of_ok Action.get_apply, Action.of_except_ok_iff]

theorem Workbook.sheet_of_select {workbook : Workbook} {selector : Selector} {sheet : Nat}
    {grid : Grid} (selected : workbook.select selector = .ok (sheet, grid)) :
    workbook.sheets[sheet]? = some grid := by
  rw [select] at selected
  cases placed : workbook.position? selector with
  | none =>
      rw [placed] at selected
      cases selected
  | some position =>
      cases held : workbook.sheets[position]? with
      | none =>
          simp only [placed, held] at selected
          cases selected
      | some found =>
          simp only [placed, held] at selected
          cases selected
          exact held

theorem header_names_ok_iff {headers : Span} {sheet after : Sheet} :
    (∃ names, headerNames (some headers) sheet = .ok names after) ↔
      sheet.grid.checkBounds headers = .ok () ∧ after = sheet := by
  constructor
  · rintro ⟨names, named⟩
    obtain ⟨rows, middle, valued, named⟩ := Action.bind_ok_iff.1 named
    obtain ⟨read, rfl⟩ := Sheet.values_ok_iff.1 valued
    refine ⟨(Grid.read_ok_iff.1 read).1, ?_⟩
    cases rows with
    | nil =>
        cases named
        rfl
    | cons row rest =>
        cases named
        rfl
  · rintro ⟨readable, rfl⟩
    have valued : Sheet.values headers after = .ok (after.grid.block headers) after :=
      Sheet.values_ok_iff.2 ⟨Grid.read_ok_iff.2 ⟨readable, rfl⟩, rfl⟩
    rw [headerNames, Action.bind_of_ok valued]
    cases after.grid.block headers with
    | nil => exact ⟨[], rfl⟩
    | cons row rest => exact ⟨row.map Cell.display, rfl⟩

theorem header_names_eq {headers : Span} {sheet after : Sheet} {names : List String}
    (named : headerNames (some headers) sheet = .ok names after) :
    names = (sheet.grid.rowFrom headers.column headers.columns headers.row).map Cell.display := by
  have readable := (header_names_ok_iff.1 ⟨names, named⟩).1
  obtain ⟨rows, middle, valued, named⟩ := Action.bind_ok_iff.1 named
  obtain ⟨read, rfl⟩ := Sheet.values_ok_iff.1 valued
  obtain ⟨-, rfl⟩ := Grid.read_ok_iff.1 read
  obtain ⟨⟨-, -, tall, -⟩, -⟩ := Grid.inside_of_check readable
  cases listed : middle.grid.block headers with
  | nil =>
      have length := Grid.length_block readable
      rw [listed, List.length_nil] at length
      omega
  | cons row rest =>
      have first : (middle.grid.block headers)[0]? = some row := by rw [listed]; rfl
      rw [listed] at named
      cases named
      rw [((Grid.block_row_iff readable).1 first).2, Nat.add_zero]

theorem EntityRanges.grid_of_resolved {options : RangeOptions} {sheet after : Sheet}
    {ranges : EntityRanges} (resolved : resolve options sheet = .ok ranges after) :
    after.grid = sheet.grid := by
  rw [resolve] at resolved
  cases given : options.headers with
  | none =>
      simp only [given, pure_bind] at resolved
      obtain ⟨data, middle, ranged, finished⟩ := Action.bind_ok_iff.1 resolved
      cases finished
      obtain ⟨cache, -, rfl⟩ := Region.range_ok_iff.1 ranged
      rfl
  | some address =>
      simp only [given, bind_map_left] at resolved
      obtain ⟨headers, headed, found, resolved⟩ := Action.bind_ok_iff.1 resolved
      obtain ⟨data, middle, ranged, finished⟩ := Action.bind_ok_iff.1 resolved
      cases finished
      obtain ⟨first, -, rfl⟩ := Region.range_ok_iff.1 found
      obtain ⟨second, -, rfl⟩ := Region.range_ok_iff.1 ranged
      rfl

theorem ranges_below_iff {options : RangeOptions} {address : Address} {headers : Span}
    {sheet after : Sheet} {cache : MetricCache} {ranges : EntityRanges}
    (headed : options.headers = some address) (unsaid : options.data = none)
    (found : address.resolve sheet.grid sheet.cache = .ok headers cache) :
    EntityRanges.resolve options sheet = .ok ranges after ↔
      ∃ data final,
        (Region.addressToBottom (Size.next headers.row) headers.column headers.columns).resolve
          sheet.grid cache = .ok data final ∧
        ranges = ⟨some headers, data⟩ ∧ after = ⟨sheet.grid, final⟩ := by
  have ranged : Sheet.range address sheet = .ok headers { sheet with cache } :=
    Region.range_ok_iff.2 ⟨cache, found, rfl⟩
  rw [EntityRanges.resolve]
  simp only [headed, unsaid, bind_map_left]
  rw [Action.bind_of_ok ranged, Action.bind_ok_iff]
  constructor
  · rintro ⟨data, middle, below, finished⟩
    cases finished
    obtain ⟨final, placed, rfl⟩ := Region.range_ok_iff.1 below
    exact ⟨data, final, placed, rfl, rfl⟩
  · rintro ⟨data, final, placed, rfl, rfl⟩
    exact ⟨data, _, Region.range_ok_iff.2 ⟨final, placed, rfl⟩, rfl⟩

/-- The blocks of an entity on a grid, the names in its headers, and its columns. -/
structure Schema.Finds (schema : Schema) (grid : Grid) (ranges : EntityRanges)
    (names : List String) (map : ColumnMap) (view : Sheet) : Prop where
  blocks : ∃ ranged, EntityRanges.resolve schema.ranges { grid } = .ok ranges ranged ∧
    headerNames ranges.headers ranged = .ok names view
  columns : ColumnMap.build schema.columns names = .ok map

theorem Schema.bind_ok_iff {schema : Schema} {grid : Grid} {map : ColumnMap} {span : Span}
    {view : Sheet} :
    schema.bind { grid } = .ok (map, span) view ↔
      ∃ ranges names, schema.Finds grid ranges names map view ∧ span = ranges.data := by
  constructor
  · intro binds
    obtain ⟨ranges, ranged, resolved, binds⟩ := Action.bind_ok_iff.1 binds
    obtain ⟨names, read, named, binds⟩ := Action.bind_ok_iff.1 binds
    obtain ⟨columns, last, built, finished⟩ := Action.bind_ok_iff.1 binds
    obtain ⟨mapped, rfl⟩ := Action.of_except_ok_iff.1 built
    cases finished
    exact ⟨ranges, names, ⟨⟨ranged, resolved, named⟩, mapped⟩, rfl⟩
  · rintro ⟨ranges, names, ⟨⟨ranged, resolved, named⟩, built⟩, rfl⟩
    rw [Schema.bind, Action.bind_of_ok resolved, Action.bind_of_ok named, built]
    rfl

namespace DataSource

variable {source opened : DataSource} {selector : Selector} {place : Nat} {schema : Schema}

theorem connect_fresh_iff
    (missing : source.bindings.findIdx? (fun binding => binding.selector = selector) = none)
    (described : source.schemas.find? (fun schema => schema.selector = selector) = some schema) :
    connect selector source = .ok place opened ↔
      ∃ binding, source.open? schema = .ok binding ∧ place = source.bindings.length ∧
        opened = { source with bindings := source.bindings ++ [binding] } := by
  rw [connect, Action.bind_of_ok Action.get_apply]
  simp only [missing, described]
  constructor
  · intro connects
    cases bound : source.open? schema with
    | error error =>
        rw [bound] at connects
        cases connects
    | ok binding =>
        rw [bound] at connects
        cases connects
        exact ⟨binding, rfl, rfl, rfl⟩
  · rintro ⟨binding, bound, rfl, rfl⟩
    rw [bound]
    rfl

section Opens

/-- A repository that connecting to an entity with the schema opens. The grid is the one at that
moment. -/
structure Opens (source : DataSource) (selector : Selector) (schema : Schema)
    (opened : DataSource) (place : Nat) (binding : Binding) (grid : Grid) : Prop where
  missing : source.bindings.findIdx? (fun binding => binding.selector = selector) = none
  described : source.schemas.find? (fun schema => schema.selector = selector) = some schema
  connects : connect selector source = .ok place opened
  held : opened.bindings[place]? = some binding
  present : source.workbook.sheets[binding.sheet]? = some grid

variable {binding : Binding} {grid : Grid}

/-- Its block is the one that the ranges of the schema come to, and its columns are those that the
names in the headers come to. -/
theorem Opens.built (opens : Opens source selector schema opened place binding grid) :
    ∃ ranges ranged names read map,
      EntityRanges.resolve schema.ranges { grid } = .ok ranges ranged ∧
        headerNames ranges.headers ranged = .ok names read ∧
        ColumnMap.build schema.columns names = .ok map ∧
        binding.repository = ⟨map, schema.mapper map⟩ ∧ binding.span = ranges.data := by
  obtain ⟨other, bound, rfl, rfl⟩ := (connect_fresh_iff opens.missing opens.described).1
    opens.connects
  have held := opens.held
  rw [List.getElem?_append_right (Nat.le_refl _), Nat.sub_self] at held
  obtain rfl := Option.some.inj held
  obtain ⟨sheet, selected, map, span, view, chosen, binds, rfl⟩ := open_ok_iff.1 bound
  have present := opens.present
  rw [Workbook.sheet_of_select chosen] at present
  obtain rfl := Option.some.inj present
  obtain ⟨ranges, names, ⟨⟨ranged, resolved, named⟩, built⟩, rfl⟩ := Schema.bind_ok_iff.1 binds
  exact ⟨ranges, ranged, names, view, map, resolved, named, built, rfl, rfl⟩

theorem Opens.resolved (opens : Opens source selector schema opened place binding grid) :
    ∃ ranges ranged names read,
      EntityRanges.resolve schema.ranges { grid } = .ok ranges ranged ∧
        headerNames ranges.headers ranged = .ok names read ∧ binding.span = ranges.data := by
  obtain ⟨ranges, ranged, names, read, map, resolved, named, -, -, span⟩ := opens.built
  exact ⟨ranges, ranged, names, read, resolved, named, span⟩

theorem Opens.access (opens : Opens source selector schema opened place binding grid) :
    Access opened selector opened place binding ⟨⟨grid, binding.cache⟩, binding.span⟩ := by
  obtain ⟨other, -, -, same⟩ := (connect_fresh_iff opens.missing opens.described).1 opens.connects
  have unchanged : opened.workbook = source.workbook := by rw [same]
  refine ⟨connect_again (place_of_connect opens.connects), opens.held, ?_⟩
  rw [region?, unchanged, opens.present]
  rfl

end Opens

/-- A repository that connecting to an entity opens, for an entity with headers and no word on
where its data lies. The grid and the headers are those at that moment. -/
structure OpensBelow (source : DataSource) (selector : Selector) (headers : Span)
    (opened : DataSource) (place : Nat) (binding : Binding) (grid : Grid) : Prop where
  missing : source.bindings.findIdx? (fun binding => binding.selector = selector) = none
  connects : connect selector source = .ok place opened
  held : opened.bindings[place]? = some binding
  present : source.workbook.sheets[binding.sheet]? = some grid
  described : ∃ schema address cache,
    source.schemas.find? (fun schema => schema.selector = selector) = some schema ∧
      schema.ranges.headers = some address ∧ schema.ranges.data = none ∧
        address.resolve grid .empty = .ok headers cache

variable {headers : Span} {binding : Binding} {grid : Grid}

/-- The data block is what the headers' row after the first, their column and their width come to,
and the headers have been read. -/
theorem measured_below (opens : OpensBelow source selector headers opened place binding grid) :
    grid.checkBounds headers = .ok () ∧ ∃ cache final,
      (Region.addressToBottom (headers.row + 1) headers.column headers.columns).resolve grid cache =
        .ok binding.span final := by
  obtain ⟨schema, address, cache, described, headed, unsaid, found⟩ := opens.described
  obtain ⟨ranges, ranged, names, read, resolved, named, span⟩ :=
    Opens.resolved ⟨opens.missing, described, opens.connects, opens.held, opens.present⟩
  obtain ⟨data, final, placed, rfl, rfl⟩ := (ranges_below_iff headed unsaid found).1 resolved
  have below := Size.next_pos_iff.1 (Address.is_present_iff.1 (Address.present_of_resolved placed).1)
  rw [Size.next_of_lt below] at placed
  rw [span]
  exact ⟨(header_names_ok_iff.1 ⟨names, named⟩).1, cache, final, placed⟩

theorem access_of_opens (opens : OpensBelow source selector headers opened place binding grid) :
    Access opened selector opened place binding ⟨⟨grid, binding.cache⟩, binding.span⟩ := by
  obtain ⟨schema, address, cache, described, -⟩ := opens.described
  exact Opens.access ⟨opens.missing, described, opens.connects, opens.held, opens.present⟩

end DataSource

section Headed

/-! People under headers, on the only sheet of a workbook. -/

def headedSchema (headers : Span) : Schema where
  selector := .name "people"
  ranges := { headers := some (.ofResolver fun _ => .ok headers) }
  columns := [("name", ⟨.position 0, false, {}⟩)]
  transform := {}

def headedSource (grid : Grid) (headers : Span) : DataSource :=
  ⟨⟨"book", [grid]⟩, [headedSchema headers], []⟩

def belowHeaders (headers : Span) (rows : Nat) : Span :=
  ⟨headers.row + 1, headers.column, rows - headers.row, headers.columns⟩

def headedBinding (headers : Span) (rows : Nat) (cache : MetricCache) : Binding :=
  { peopleBinding (belowHeaders headers rows) with cache }

def headedPeople (grid : Grid) (headers : Span) (cache : MetricCache) : DataSource :=
  { headedSource grid headers with bindings := [headedBinding headers grid.maxRows cache] }

theorem headed_source_opens (grid : Grid) (headers : Span) (named : grid.name = "people")
    (exact : grid.IsExact) (addressable : headers.Addressable)
    (readable : grid.checkBounds headers = .ok ()) (room : headers.row < grid.maxRows) :
    ∃ cache, DataSource.OpensBelow (headedSource grid headers) (.name "people") headers
      (headedPeople grid headers cache) 0 (headedBinding headers grid.maxRows cache) grid := by
  obtain ⟨-, column, columns, -⟩ := Region.exact_of_readable exact readable
  obtain ⟨cache, -, below⟩ := Region.resolve_to_bottom (MetricCache.faithful_empty grid) exact
    ⟨Nat.succ_pos headers.row, room⟩ column columns
  have last : headers.row < Size.largest :=
    Nat.lt_trans (Nat.lt_of_lt_of_le room (Nat.le_of_lt exact.1)) (by decide)
  have placed : (Region.addressToBottom (Size.next headers.row) headers.column
      headers.columns).resolve grid .empty = .ok (belowHeaders headers grid.maxRows) cache := by
    rw [Size.next_of_lt last]
    exact below
  have found : (Address.ofResolver fun _ => .ok headers).resolve grid .empty =
      .ok headers .empty := by
    show (Action.ofExcept .range headers.validated : Action MetricCache Span) .empty = _
    rw [Span.validated_ok_iff.2 ⟨addressable, rfl⟩]
    rfl
  obtain ⟨names, read⟩ := header_names_ok_iff.2 ⟨readable, (rfl : Sheet.mk grid cache = _)⟩
  have blocks : EntityRanges.resolve (headedSchema headers).ranges { grid } =
      .ok ⟨some headers, belowHeaders headers grid.maxRows⟩ ⟨grid, cache⟩ :=
    (ranges_below_iff rfl rfl found).2 ⟨_, cache, placed, rfl, rfl⟩
  have binds : (headedSchema headers).bind { grid } =
      .ok (⟨[("name", 0)]⟩, belowHeaders headers grid.maxRows) ⟨grid, cache⟩ :=
    Schema.bind_ok_iff.2 ⟨_, names, ⟨⟨_, blocks, read⟩, rfl⟩, rfl⟩
  have selected : (headedSource grid headers).workbook.select (.name "people") = .ok (0, grid) := by
    simp [headedSource, Workbook.select, Workbook.position?, named]
  exact ⟨cache, rfl, (DataSource.connect_fresh_iff rfl rfl).2
    ⟨_, DataSource.open_ok_iff.2 ⟨0, grid, _, _, _, selected, binds, rfl⟩, rfl, rfl⟩, rfl, rfl,
    headedSchema headers, _, .empty, rfl, rfl, rfl, found⟩

end Headed

end GridStore
