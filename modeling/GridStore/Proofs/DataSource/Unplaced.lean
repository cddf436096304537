import GridStore.Proofs.Address.Direct
import GridStore.Proofs.DataSource.Open

/-!
Opening a repository for an entity with no word on where its data lies, with headers or without:
the data block lies within the grid.
-/

set_option autoImplicit false

namespace GridStore

namespace EntityRanges

theorem readable_within {grid : Grid} {span : Span} (row : 1 ≤ span.row) (column : 1 ≤ span.column)
    (rows : 1 ≤ span.rows) (columns : 1 ≤ span.columns)
    (bottom : span.row + span.rows ≤ grid.maxRows + 1)
    (right : span.column + span.columns ≤ grid.maxColumns + 1) :
    grid.checkBounds span = .ok () := by
  apply Grid.check_bounds_ok_iff.2
  refine ⟨?_, ?_, ?_⟩
  · simp only [Span.isDegenerate, Bool.or_eq_false_iff, beq_eq_false_iff_ne]
    omega
  · rw [Span.lastRow]
    omega
  · rw [Span.lastColumn]
    omega

variable {grid : Grid} {cache final : MetricCache} {data : Span}

theorem readable_below {headers : Span} (exact : grid.IsExact) (faithful : cache.IsFaithful grid)
    (readable : grid.checkBounds headers = .ok ())
    (resolved : (defaultData (some headers)).resolve grid cache = .ok data final) :
    grid.checkBounds data = .ok () := by
  let asked : Span := ⟨headers.row + 1, headers.column, 1, headers.columns⟩
  have last := Size.next_pos_iff.1
    (Address.is_present_iff.1 (Address.present_of_resolved resolved).1)
  have below : (Region.addressToBottom asked.row asked.column asked.columns).resolve grid cache =
      .ok data final := by
    rw [defaultData, Size.next_of_lt last] at resolved
    exact resolved
  obtain ⟨fits, -⟩ := Region.measured_of_bottom faithful exact.1 below
  obtain ⟨-, left, width, -⟩ := Region.exact_of_readable exact readable
  have right : headers.lastColumn ≤ grid.maxColumns := (Grid.check_bounds_ok_iff.1 readable).2.2
  rw [Span.lastColumn] at right
  have column : data.column = headers.column := fits.column (Or.inr left.2)
  have columns : data.columns = max 1 headers.columns :=
    fits.columns (Or.inr (Nat.max_le.2 ⟨by decide, width.2⟩))
  have inside : 1 ≤ headers.row + 1 ∧ headers.row + 1 ≤ grid.maxRows := fits.inside
  have row : data.row = headers.row + 1 := fits.row
  have rows : data.rows = grid.maxRows - headers.row := fits.rows
  apply readable_within <;> omega

theorem positive_of_coordinate {count : Nat} (fits : Address.IsCoordinate (.ofNat count)) :
    1 ≤ count := by
  apply Address.is_present_iff.1
  rw [AddressToken.isPresent, fits.1, Number.is_nan_of_nat]
  rfl

theorem readable_everywhere (exact : grid.IsExact) (faithful : cache.IsFaithful grid)
    (resolved : (defaultData none).resolve grid cache = .ok data final) :
    grid.checkBounds data = .ok () := by
  have one : AddressToken.isPresent (.number (.ofNat 1)) = true :=
    Address.is_present_iff.2 (Nat.le_refl 1)
  have everywhere : Address.resolve grid ⟨.number (.ofNat 1), .number (.ofNat 1),
    .text ("mr - " ++ toString 0), .text "mc"⟩ cache = .ok data final := resolved
  rw [Address.resolve_number_row one one, Address.resolve_tokens_ok_iff] at everywhere
  obtain ⟨row, column, rows, columns, cache₁, cache₂, cache₃, rowed, columned, tall, wide,
    ⟨-, -, rowsFit, columnsFit⟩, spanned, -⟩ := everywhere
  have single : (1 : Nat) ≤ exactBound := by decide
  obtain ⟨top, same⟩ := Address.coordinate_number_ok rowed
  obtain ⟨left, unchanged⟩ := Address.coordinate_number_ok columned
  rw [Number.trunc_of_nat single] at top left
  rw [unchanged, same] at tall
  obtain ⟨cache', failure, still, height⟩ := Address.coordinate_rows_minus faithful 0
  rw [Number.sub_of_nat (Nat.le_of_lt exact.1) (Nat.zero_le _), Nat.sub_zero,
    Number.is_finite_of_nat (Nat.le_of_lt exact.1), if_pos rfl,
    Number.trunc_of_nat (Nat.le_of_lt exact.1)] at height
  rw [Address.or_one_rows_minus, height] at tall
  obtain ⟨rfl, rfl⟩ := EStateM.Result.ok.inj tall
  have word : "mc".toList = Metric.maxColumns.symbol := rfl
  obtain ⟨cache'', refusal, -, width⟩ := Address.coordinate_metric still word
  have measured : grid.measure .maxColumns = grid.maxColumns := rfl
  rw [measured, Number.is_finite_of_nat (Nat.le_of_lt exact.2), if_pos rfl,
    Number.trunc_of_nat (Nat.le_of_lt exact.2)] at width
  have given : Address.orOne (.text "mc") = .text "mc" := rfl
  rw [given, width] at wide
  obtain ⟨rfl, rfl⟩ := EStateM.Result.ok.inj wide
  rw [top, left, Number.to_nat_of_nat single, Number.to_nat_of_nat (Nat.le_of_lt exact.1),
    Number.to_nat_of_nat (Nat.le_of_lt exact.2)] at spanned
  have rows := positive_of_coordinate rowsFit
  have columns := positive_of_coordinate columnsFit
  rw [spanned]
  apply readable_within <;> simp only <;> omega

theorem placed_by_default (headers : Option Span) {sheet after : Sheet} {ranges : EntityRanges}
    (resolved : (do
      let data ← Sheet.range (defaultData headers)
      return { headers, data : EntityRanges }) sheet = .ok ranges after) :
    ranges.headers = headers ∧ after.grid = sheet.grid ∧ ∃ final,
      (defaultData headers).resolve sheet.grid sheet.cache = .ok ranges.data final := by
  obtain ⟨data, last, ranged, finished⟩ := Action.bind_ok_iff.1 resolved
  cases finished
  obtain ⟨cache, placed, rfl⟩ := Region.range_ok_iff.1 ranged
  exact ⟨rfl, rfl, cache, placed⟩

theorem ranges_unplaced {options : RangeOptions} {sheet after : Sheet} {ranges : EntityRanges}
    (unsaid : options.data = none) (faithful : sheet.cache.IsFaithful sheet.grid)
    (resolved : resolve options sheet = .ok ranges after) :
    after.grid = sheet.grid ∧ ∃ cache final, cache.IsFaithful sheet.grid ∧
      (defaultData ranges.headers).resolve sheet.grid cache = .ok ranges.data final := by
  rw [EntityRanges.resolve] at resolved
  simp only [unsaid, Option.getD_none, bind_map_left] at resolved
  cases given : options.headers with
  | none =>
      simp only [given, pure_bind] at resolved
      obtain ⟨headers, sameGrid, final, placed⟩ := placed_by_default none resolved
      rw [headers]
      exact ⟨sameGrid, sheet.cache, final, faithful, placed⟩
  | some address =>
      rw [given] at resolved
      obtain ⟨span, middle, ranged, resolved⟩ := Action.bind_ok_iff.1 resolved
      obtain ⟨cache, found, rfl⟩ := Region.range_ok_iff.1 ranged
      obtain ⟨headers, sameGrid, final, placed⟩ := placed_by_default (some span) resolved
      rw [headers]
      exact ⟨sameGrid, cache, final, Address.faithful_of_resolved faithful found, placed⟩

/-- Without a word on where the data lies it is kept under the columns of the headers. -/
theorem columns_unplaced {options : RangeOptions} {grid : Grid} {after : Sheet}
    {ranges : EntityRanges} {headers : Span} (unsaid : options.data = none)
    (resolved : resolve options { grid } = .ok ranges after)
    (headed : ranges.headers = some headers) (readable : grid.checkBounds headers = .ok ())
    (exact : grid.maxColumns < exactBound) :
    Address.IsKept ranges.data.column ∧ ranges.data.column = headers.column ∧
      Address.IsKept ranges.data.columns ∧ ranges.data.columns = headers.columns := by
  obtain ⟨-, cache, final, -, placed⟩ :=
    ranges_unplaced unsaid (MetricCache.faithful_empty grid) resolved
  rw [headed] at placed
  obtain ⟨-, column, columns, -⟩ := Address.rounded_of_numbers placed
  obtain ⟨⟨-, left, -, wide⟩, -, right⟩ := Grid.inside_of_check readable
  have exactColumns : grid.columns < exactBound := exact
  rw [Nat.max_eq_right wide] at columns
  refine ⟨column.kept, column.eq_of_exact (Or.inr ?_), columns.kept,
    columns.eq_of_exact (Or.inr ?_)⟩ <;> omega

end EntityRanges

namespace DataSource

/-- A repository that connecting to an entity opens, for an entity with no word on where its data
lies. The grid is the one at that moment. -/
structure OpensUnplaced (source : DataSource) (selector : Selector) (opened : DataSource)
    (place : Nat) (binding : Binding) (grid : Grid) : Prop where
  missing : source.bindings.findIdx? (fun binding => binding.selector = selector) = none
  connects : connect selector source = .ok place opened
  held : opened.bindings[place]? = some binding
  present : source.workbook.sheets[binding.sheet]? = some grid
  described : ∃ schema,
    source.schemas.find? (fun schema => schema.selector = selector) = some schema ∧
      schema.ranges.data = none

variable {source opened : DataSource} {selector : Selector} {place : Nat} {binding : Binding}
  {grid : Grid}

/-- Whether or not there are headers, the block that is opened lies within the grid. -/
theorem readable_of_opens (opens : OpensUnplaced source selector opened place binding grid)
    (exact : grid.IsExact) : grid.checkBounds binding.span = .ok () := by
  obtain ⟨schema, described, unsaid⟩ := opens.described
  obtain ⟨ranges, ranged, names, read, resolved, named, span⟩ :=
    Opens.resolved ⟨opens.missing, described, opens.connects, opens.held, opens.present⟩
  rw [span]
  obtain ⟨sameGrid, cache, final, faithful, placed⟩ :=
    EntityRanges.ranges_unplaced unsaid (MetricCache.faithful_empty _) resolved
  cases given : ranges.headers with
  | none =>
      rw [given] at placed
      exact EntityRanges.readable_everywhere exact faithful placed
  | some headers =>
      rw [given] at placed named
      have readable := (header_names_ok_iff.1 ⟨names, named⟩).1
      rw [sameGrid] at readable
      exact EntityRanges.readable_below exact faithful readable placed

theorem access_of_unplaced (opens : OpensUnplaced source selector opened place binding grid) :
    Access opened selector opened place binding ⟨⟨grid, binding.cache⟩, binding.span⟩ := by
  obtain ⟨schema, described, -⟩ := opens.described
  exact Opens.access ⟨opens.missing, described, opens.connects, opens.held, opens.present⟩

end DataSource

end GridStore
