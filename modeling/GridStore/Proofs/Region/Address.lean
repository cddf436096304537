import GridStore.Proofs.Address.Rounded
import GridStore.Region

/-!
The addresses that regions hand over: from a corner to the bottom of the grid, below all content,
and a single row. Each resolves to the block that the numbers in it say.
-/

set_option autoImplicit false

namespace GridStore

/-- An extent whose sizes are kept exactly by the numbers that addresses are resolved with. -/
def Grid.IsExact (grid : Grid) : Prop :=
  grid.maxRows < exactBound ∧ grid.maxColumns < exactBound

namespace Address

variable {grid : Grid} {cache final : MetricCache}

theorem or_one_rows_minus (offset : Nat) :
    orOne (.text ("mr - " ++ toString offset)) = .text ("mr - " ++ toString offset) := by
  have notEmpty : ("mr - " ++ toString offset).isEmpty = false := by simp
  rw [orOne, AddressToken.isPresent, notEmpty]
  rfl

end Address

namespace Region

open Address

/-- What remeasuring makes of a block: the corner stays, and it reaches the last row of the grid.
Columns that a number cannot keep exactly are rounded. -/
structure Measured (grid : Grid) (asked measured : Span) : Prop where
  inside : 1 ≤ asked.row ∧ asked.row ≤ grid.maxRows
  row : measured.row = asked.row
  rows : measured.rows = grid.maxRows - (asked.row - 1)
  column : measured.column < exactBound ∨ asked.column ≤ exactBound →
    measured.column = asked.column
  columns : measured.columns < exactBound ∨ max 1 asked.columns ≤ exactBound →
    measured.columns = max 1 asked.columns
  addressable : measured.Addressable

variable {grid : Grid} {cache final : MetricCache}

theorem address_to_bottom_of_pos {row : Nat} (positive : 1 ≤ row) (column columns : Nat) :
    addressToBottom row column columns =
      { row := .number (.ofNat row), column := .number (.ofNat column)
        rows := .text ("mr - " ++ toString (row - 1)), columns := .number (.ofNat columns) } := by
  rw [addressToBottom, Size.previous_of_pos positive]

/-- A block of kept sizes, whose corner lies within the rows of the grid, reaches the last row. -/
theorem resolve_kept_to_bottom (faithful : cache.IsFaithful grid)
    (exact : grid.maxRows < exactBound) {row column columns : Nat}
    (inside : 1 ≤ row ∧ row ≤ grid.maxRows) (columnKept : IsKept column)
    (columnsKept : IsKept columns) (positive : 1 ≤ column ∧ 1 ≤ columns)
    (right : column + columns ≤ Size.largest) :
    ∃ cache', cache'.IsFaithful grid ∧ resolve grid (addressToBottom row column columns) cache =
      .ok ⟨row, column, grid.maxRows - (row - 1), columns⟩ cache' := by
  have maxExact : grid.maxRows ≤ exactBound := Nat.le_of_lt exact
  have rowExact : row ≤ exactBound := Nat.le_trans inside.2 maxExact
  have heightExact : 1 ≤ grid.maxRows - (row - 1) ∧ grid.maxRows - (row - 1) ≤ exactBound := by
    omega
  have addressable : Span.Addressable ⟨row, column, grid.maxRows - (row - 1), columns⟩ :=
    ⟨⟨inside.1, positive.1, heightExact.1, positive.2⟩,
      exact_sum_addressable rowExact heightExact.2, right⟩
  obtain ⟨cache', failure, kept, height⟩ := coordinate_rows_minus faithful (row - 1)
  rw [Number.sub_of_nat maxExact (by omega), Number.is_finite_of_nat heightExact.2, if_pos rfl,
    Number.trunc_rounded, ← or_one_rows_minus] at height
  refine ⟨cache', kept, ?_⟩
  rw [address_to_bottom_of_pos inside.1, resolve_number_row (is_present_iff.2 inside.1)
    (is_present_iff.2 positive.1)]
  exact resolve_kept_tokens (coordinate_of_nat row) (coordinate_of_nat column) height
    (or_one_coordinate positive.2) (kept_of_exact inside.1 rowExact) columnKept
    (kept_of_exact heightExact.1 heightExact.2) columnsKept addressable

theorem resolve_to_bottom (faithful : cache.IsFaithful grid) (exact : grid.IsExact)
    {row column columns : Nat} (rowInside : 1 ≤ row ∧ row ≤ grid.maxRows)
    (columnExact : 1 ≤ column ∧ column ≤ exactBound)
    (columnsExact : 1 ≤ columns ∧ columns ≤ exactBound) :
    ∃ cache', cache'.IsFaithful grid ∧ resolve grid (addressToBottom row column columns) cache =
      .ok ⟨row, column, grid.maxRows - (row - 1), columns⟩ cache' :=
  resolve_kept_to_bottom faithful exact.1 rowInside (kept_of_exact columnExact.1 columnExact.2)
    (kept_of_exact columnsExact.1 columnsExact.2) ⟨columnExact.1, columnsExact.1⟩
    (exact_sum_addressable columnExact.2 columnsExact.2)

/-- What the height down to the bottom of a grid has been resolved to. -/
theorem height_of_bottom (faithful : cache.IsFaithful grid) {row column columns : Nat}
    {measured : Span}
    (resolved : resolve grid (addressToBottom row column columns) cache = .ok measured final) :
    final.IsFaithful grid ∧ ∃ height : Number, height.isFinite = true ∧
      height = (Number.ofNat grid.maxRows).sub (.ofNat (row - 1)) ∧ IsCoordinate height.trunc ∧
        measured.rows = height.trunc.toNat := by
  obtain ⟨rowPresent, columnPresent⟩ := present_of_resolved resolved
  rw [address_to_bottom_of_pos (is_present_iff.1 rowPresent),
    resolve_number_row rowPresent columnPresent, resolve_tokens_ok_iff] at resolved
  obtain ⟨rowValue, columnValue, rows, columnsValue, cache₁, cache₂, cache₃, rowed, columned, tall,
    wide, ⟨-, -, rowsFit, -⟩, spanned, -⟩ := resolved
  obtain ⟨-, rfl⟩ := coordinate_number_ok rowed
  obtain ⟨-, rfl⟩ := coordinate_number_ok columned
  obtain ⟨-, rfl⟩ := coordinate_or_one wide
  obtain ⟨cache', failure, kept, height⟩ := coordinate_rows_minus faithful (row - 1)
  have measuredRows : measured.rows = rows.toNat := congrArg Span.rows spanned
  rw [or_one_rows_minus, height] at tall
  split at tall
  · rename_i finite
    obtain ⟨rfl, rfl⟩ := EStateM.Result.ok.inj tall
    exact ⟨kept, _, finite, rfl, rowsFit, measuredRows⟩
  · cases tall

/-- A corner without exact numbers, or below the last row, is refused. -/
theorem measured_of_bottom (faithful : cache.IsFaithful grid) (exact : grid.maxRows < exactBound)
    {asked measured : Span}
    (resolved : resolve grid (addressToBottom asked.row asked.column asked.columns) cache =
      .ok measured final) :
    Measured grid asked measured ∧ final.IsFaithful grid := by
  have maxExact : grid.maxRows ≤ exactBound := Nat.le_of_lt exact
  have positive := is_present_iff.1 (present_of_resolved resolved).1
  obtain ⟨row, column, columns, addressable⟩ := rounded_of_numbers resolved
  obtain ⟨kept, height, finite, difference, fits, rows⟩ := height_of_bottom faithful resolved
  rw [difference] at finite fits rows
  have inside : asked.row ≤ grid.maxRows := by
    refine Nat.le_of_not_lt fun below => ?_
    rcases refused_difference maxExact (by omega) finite with zero | noSize
    · rw [fits.1] at zero
      cases zero
    · rw [fits.2] at noSize
      cases noSize
  have rowExact : asked.row ≤ exactBound := Nat.le_trans inside maxExact
  have heightExact : grid.maxRows - (asked.row - 1) ≤ exactBound := by omega
  rw [Number.sub_of_nat maxExact (by omega), Number.trunc_of_nat heightExact,
    Number.to_nat_of_nat heightExact] at rows
  exact ⟨⟨⟨positive, inside⟩, row.eq_of_exact (Or.inr rowExact), rows, column.eq_of_exact,
    columns.eq_of_exact, addressable⟩, kept⟩

theorem corner_below_content (faithful : cache.IsFaithful grid) {column rows columns : Nat}
    {target : Span} (columnPositive : 1 ≤ column)
    (resolved : resolve grid (appendAddress column rows columns) cache = .ok target final) :
    RoundedTo column target.column ∧ target.Addressable ∧
      ((Number.ofNat grid.lastRow).add (.ofNat 1)).isFinite = true ∧
        target.row = ((Number.ofNat grid.lastRow).add (.ofNat 1)).trunc.toNat := by
  rw [appendAddress, resolve_text_row (by decide) (by decide) (is_present_iff.2 columnPositive),
    resolve_tokens_ok_iff] at resolved
  obtain ⟨row, columnValue, rowsValue, columnsValue, cache₁, cache₂, cache₃, rowed, columned, tall,
    wide, ⟨-, columnFits, -, -⟩, spanned, fits⟩ := resolved
  have rounded := rounded_of_coordinate (coordinate_number_ok columned).1 columnFits
  have targetRow : target.row = row.toNat := congrArg Span.row spanned
  have targetColumn : target.column = columnValue.toNat := congrArg Span.column spanned
  rw [← targetColumn] at rounded
  obtain ⟨cache', failure, kept, below⟩ := coordinate_successor faithful
  rw [below] at rowed
  split at rowed
  · rename_i finite
    obtain ⟨rfl, -⟩ := EStateM.Result.ok.inj rowed
    exact ⟨rounded, fits, finite, targetRow⟩
  · cases rowed

/-- New rows go right below the last row with content. -/
theorem target_below_content (faithful : cache.IsFaithful grid) (exact : grid.lastRow < exactBound)
    {column rows columns : Nat} {target : Span} (columnPositive : 1 ≤ column)
    (resolved : resolve grid (appendAddress column rows columns) cache = .ok target final) :
    target.row = grid.lastRow + 1 ∧ (target.column < exactBound → target.column = column) ∧
      target.Addressable := by
  obtain ⟨rounded, addressable, -, row⟩ := corner_below_content faithful columnPositive resolved
  rw [Number.add_of_nat (Nat.le_of_lt exact) (by decide), Number.trunc_of_nat exact,
    Number.to_nat_of_nat exact] at row
  exact ⟨row, fun small => rounded.eq_of_exact (Or.inl small), addressable⟩

/-- However many rows there are, new ones do not go above an exact row right below some content. -/
theorem target_at_least (faithful : cache.IsFaithful grid) {column rows columns least : Nat}
    {target : Span} (columnPositive : 1 ≤ column) (small : least ≤ exactBound)
    (above : least ≤ grid.lastRow + 1)
    (resolved : resolve grid (appendAddress column rows columns) cache = .ok target final) :
    least ≤ target.row ∧ RoundedTo column target.column ∧ target.Addressable := by
  obtain ⟨rounded, addressable, finite, row⟩ :=
    corner_below_content faithful columnPositive resolved
  rw [row]
  exact ⟨Number.successor_at_least small above finite, rounded, addressable⟩

theorem resolve_below_content (faithful : cache.IsFaithful grid)
    (exact : grid.lastRow < exactBound) {column rows columns : Nat}
    (columnExact : 1 ≤ column ∧ column ≤ exactBound) (rowsExact : 1 ≤ rows ∧ rows ≤ exactBound)
    (columnsExact : 1 ≤ columns ∧ columns ≤ exactBound) :
    ∃ cache', resolve grid (appendAddress column rows columns) cache =
      .ok ⟨grid.lastRow + 1, column, rows, columns⟩ cache' := by
  obtain ⟨cache', -, below⟩ := coordinate_below_content faithful exact
  refine ⟨cache', ?_⟩
  rw [appendAddress, resolve_text_row (by decide) (by decide) (is_present_iff.2 columnExact.1)]
  exact resolve_exact_tokens below (coordinate_of_nat column) (or_one_coordinate rowsExact.1)
    (or_one_coordinate columnsExact.1) ⟨Nat.succ_pos _, exact⟩ columnExact rowsExact columnsExact

end Region

end GridStore
