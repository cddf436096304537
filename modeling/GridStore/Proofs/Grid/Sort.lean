import GridStore.Proofs.Cell.Order
import GridStore.Proofs.Grid.Cells

/-!
Sorting a block: its rows are put in the order of their keys, rows with equal keys stay in the
order they had, and nothing outside the block changes.
-/

set_option autoImplicit false

namespace GridStore.Grid

def sortKey (key : Nat) (row : Row) : Cell := row.getD key .empty

/-- The same rows in the order of their keys. Those with equal keys follow one another as before;
all blank keys equal the blank cell. -/
structure SortedRows (key : Nat) (ascending : Bool) (before after : List Row) : Prop where
  permuted : after.Perm before
  ordered : after.Pairwise fun left right =>
    Cell.InOrder ascending (sortKey key left) (sortKey key right)
  stable : ∀ cell : Cell, after.filter (fun row => (sortKey key row).equals cell) =
    before.filter fun row => (sortKey key row).equals cell

def ordered : Cell → Cell
  | .number .nan => .empty
  | cell => cell

theorem ordered_real (cell : Cell) : ordered cell ≠ .number .nan := by
  unfold ordered
  split
  · simp
  · assumption

theorem ordered_of_real {cell : Cell} (real : cell ≠ .number .nan) : ordered cell = cell := by
  unfold ordered
  split
  · exact absurd rfl real
  · rfl

/-- The comparison of a sort, made an order on all rows by taking `nan` for a blank. -/
def inKeyOrder (key : Nat) (ascending : Bool) (left right : Row) : Bool :=
  (Cell.keyOrder ascending (ordered (sortKey key left)) (ordered (sortKey key right))).isLE

variable {key : Nat} {ascending : Bool} {rows : List Row}

theorem in_key_order_iff {left right : Row} : inKeyOrder key ascending left right = true ↔
    Cell.InOrder ascending (ordered (sortKey key left)) (ordered (sortKey key right)) :=
  Cell.key_order_is_le_iff (ordered_real _) (ordered_real _)

theorem in_key_order_trans (first second third : Row)
    (before : inKeyOrder key ascending first second = true)
    (after : inKeyOrder key ascending second third = true) :
    inKeyOrder key ascending first third = true := by
  rw [in_key_order_iff] at before after ⊢
  exact Cell.in_order_trans before after

theorem in_key_order_total (left right : Row) :
    (inKeyOrder key ascending left right || inKeyOrder key ascending right left) = true := by
  rw [Bool.or_eq_true, in_key_order_iff, in_key_order_iff]
  exact Cell.in_order_total (ordered_real _) (ordered_real _)

theorem sort_rows_eq (real : ∀ row ∈ rows, sortKey key row ≠ .number .nan) :
    sortRows key ascending rows = rows.mergeSort (inKeyOrder key ascending) := by
  have agrees : ∀ left ∈ rows, ∀ right ∈ rows,
      (Cell.keyOrder ascending (left.getD key .empty) (right.getD key .empty)).isLE =
        inKeyOrder key ascending (id left) (id right) := by
    intro left leftMember right rightMember
    rw [inKeyOrder, id, id, ordered_of_real (real left leftMember),
      ordered_of_real (real right rightMember), sortKey, sortKey]
  have mapped := List.map_mergeSort agrees
  rwa [List.map_id, List.map_id] at mapped

theorem sort_rows_perm (key : Nat) (ascending : Bool) (rows : List Row) :
    (sortRows key ascending rows).Perm rows := List.mergeSort_perm _ _

/-- Rows with equal keys are in order as they are, so sorting keeps them so. -/
theorem sort_rows_stable (real : ∀ row ∈ rows, sortKey key row ≠ .number .nan) (cell : Cell) :
    (sortRows key ascending rows).filter (fun row => (sortKey key row).equals cell) =
      rows.filter fun row => (sortKey key row).equals cell := by
  have equal : ∀ row ∈ rows.filter (fun row => (sortKey key row).equals cell),
      (ordered (sortKey key row)).equals cell = true := by
    intro row member
    obtain ⟨listed, same⟩ := List.mem_filter.1 member
    rwa [ordered_of_real (real row listed)]
  have together : (rows.filter fun row => (sortKey key row).equals cell).Pairwise
      fun left right => inKeyOrder key ascending left right = true := by
    refine List.Pairwise.imp_of_mem ?_ (List.pairwise_of_forall fun _ _ => trivial)
    intro left right leftMember rightMember _
    rw [in_key_order_iff]
    exact Cell.in_order_of_equal (equal left leftMember) (equal right rightMember)
  have among := List.sublist_mergeSort in_key_order_trans in_key_order_total together
    List.filter_sublist
  rw [← sort_rows_eq real] at among
  have kept := among.filter fun row => (sortKey key row).equals cell
  rw [List.filter_filter] at kept
  simp only [Bool.and_self] at kept
  have length := ((sort_rows_perm key ascending rows).filter
    fun row => (sortKey key row).equals cell).length_eq
  exact (kept.eq_of_length length.symm).symm

theorem sorted_rows (real : ∀ row ∈ rows, sortKey key row ≠ .number .nan) :
    SortedRows key ascending rows (sortRows key ascending rows) where
  permuted := sort_rows_perm key ascending rows
  ordered := by
    have listed : ∀ row ∈ sortRows key ascending rows, sortKey key row ≠ .number .nan :=
      fun row member => real row ((sort_rows_perm key ascending rows).mem_iff.1 member)
    have sorted : (rows.mergeSort (inKeyOrder key ascending)).Pairwise fun left right =>
        inKeyOrder key ascending left right = true :=
      List.pairwise_mergeSort in_key_order_trans in_key_order_total rows
    rw [← sort_rows_eq real] at sorted
    refine sorted.imp_of_mem ?_
    intro left right leftMember rightMember before
    rwa [in_key_order_iff, ordered_of_real (listed left leftMember),
      ordered_of_real (listed right rightMember)] at before
  stable := sort_rows_stable real

theorem sort_ok_iff {grid after : Grid} {span : Span} {column : Nat} :
    grid.sort span column ascending = .ok after ↔
      grid.checkBounds span = .ok () ∧ (span.column ≤ column ∧ column ≤ span.lastColumn) ∧
        grid.write span (sortRows (column - span.column) ascending (grid.block span)) =
          .ok after := by
  rw [sort]
  cases checked : grid.checkBounds span with
  | error cause => simp [bind, Except.bind]
  | ok nothing =>
      rw [read_ok_iff.2 ⟨checked, rfl⟩]
      by_cases outside : column < span.column ∨ span.lastColumn < column
      · have none : ¬(span.column ≤ column ∧ column ≤ span.lastColumn) := by omega
        simp [outside, none, bind, Except.bind, throw, throwThe, MonadExceptOf.throw]
      · have inside : span.column ≤ column ∧ column ≤ span.lastColumn := by omega
        simp [outside, inside, bind, Except.bind]

/-- New values in a block inside a grid; everything else on it stays. -/
structure Refilled (before after : Grid) (span : Span) (values : List Row) : Prop where
  name : after.name = before.name
  maxRows : after.maxRows = before.maxRows
  maxColumns : after.maxColumns = before.maxColumns
  block : after.block span = values
  kept : ∀ row column, span.covers row column = false →
    after.cell? row column = before.cell? row column

theorem row_from_of_written {before after : Grid} {span : Span} {values : List Row} {offset : Nat}
    {row : Row} (wrote : Written before after span values) (listed : values[offset]? = some row) :
    after.rowFrom span.column span.columns (span.row + offset) = row := by
  have shaped := wrote.shaped
  simp only [hasShape, Bool.and_eq_true, beq_iff_eq, List.all_eq_true] at shaped
  obtain ⟨height, width⟩ := shaped
  have below := (List.getElem?_eq_some_iff.1 listed).1
  have wide := width row (List.mem_of_getElem? listed)
  apply List.ext_getElem?
  intro index
  rw [rowFrom, List.getElem?_map]
  by_cases inside : index < span.columns
  · have covered : span.covers (span.row + offset) (span.column + index) = true := by
      rw [Span.covers_iff]
      omega
    have found : row[index]? = some row[index] := List.getElem?_eq_getElem (wide ▸ inside)
    rw [List.getElem?_range inside, Option.map_some, wrote.inside _ _ covered,
      Nat.add_sub_cancel_left, Nat.add_sub_cancel_left, valueAt?, listed, Option.bind_some, found]
    rfl
  · rw [List.getElem?_eq_none (by simpa using inside), List.getElem?_eq_none (by omega)]
    rfl

theorem block_of_written {before after : Grid} {span : Span} {values : List Row}
    (readable : after.checkBounds span = .ok ()) (wrote : Written before after span values) :
    after.block span = values := by
  have shaped := wrote.shaped
  simp only [hasShape, Bool.and_eq_true, beq_iff_eq] at shaped
  apply List.ext_getElem?
  intro offset
  rw [block_eq_rows readable, List.getElem?_map]
  by_cases below : offset < span.rows
  · have listed : values[offset]? = some values[offset] := List.getElem?_eq_getElem (by omega)
    rw [List.getElem?_range' below, Nat.one_mul, Option.map_some, row_from_of_written wrote listed,
      listed]
  · rw [List.getElem?_eq_none (by simpa using below), List.getElem?_eq_none (by omega)]
    rfl

theorem refilled_of_written {before after : Grid} {span : Span} {values : List Row}
    (inside : before.checkBounds span = .ok ()) (wrote : Written before after span values) :
    Refilled before after span values := by
  obtain ⟨⟨row, column, rows, columns⟩, bottom, right⟩ := inside_of_check inside
  obtain ⟨proper, low, far⟩ := check_bounds_ok_iff.1 inside
  have maxRows : after.maxRows = before.maxRows := by rw [wrote.maxRows, Nat.max_eq_left low]
  have maxColumns : after.maxColumns = before.maxColumns := by
    rw [wrote.maxColumns, Nat.max_eq_left far]
  have readable : after.checkBounds span = .ok () := by
    rw [check_bounds_ok_iff, maxRows, maxColumns]
    exact ⟨proper, low, far⟩
  refine ⟨wrote.name, maxRows, maxColumns, block_of_written readable wrote, ?_⟩
  intro row' column' uncovered
  cases held : before.cell? row' column' with
  | some cell => exact wrote.kept row' column' cell uncovered held
  | none =>
      have missing : ¬(after.cell? row' column').isSome := by
        rw [isSome_cell?, maxRows, maxColumns, ← isSome_cell?, held]
        exact Bool.false_ne_true
      exact Option.not_isSome_iff_eq_none.1 missing

theorem shaped_of_perm {grid : Grid} {span : Span} {values : List Row}
    (inside : grid.checkBounds span = .ok ()) (permuted : values.Perm (grid.block span)) :
    hasShape values span = true := by
  simp only [hasShape, Bool.and_eq_true, beq_iff_eq, List.all_eq_true]
  refine ⟨permuted.length_eq.trans (length_block inside), ?_⟩
  intro row member
  have listed := permuted.mem_iff.1 member
  rw [block_eq_rows inside] at listed
  obtain ⟨position, -, rfl⟩ := List.mem_map.1 listed
  simp [rowFrom]

theorem sort_refills (ascending : Bool) {grid : Grid} {span : Span} {column : Nat}
    (readable : grid.checkBounds span = .ok ())
    (inside : span.column ≤ column ∧ column ≤ span.lastColumn) :
    ∃ after, grid.sort span column ascending = .ok after ∧
      Refilled grid after span (sortRows (column - span.column) ascending (grid.block span)) := by
  obtain ⟨⟨row, left, -⟩, -⟩ := inside_of_check readable
  have shaped := shaped_of_perm readable
    (sort_rows_perm (column - span.column) ascending (grid.block span))
  obtain ⟨after, wrote⟩ := write_shaped grid shaped
  exact ⟨after, sort_ok_iff.2 ⟨readable, inside, wrote⟩,
    refilled_of_written readable (written_of_write ⟨row, left⟩ wrote)⟩

/-- What sorting a block by a column leaves of a grid: the rows of the block in the order of their
cells in that column, and everything else as it was. -/
structure SortedBlock (before after : Grid) (span : Span) (column : Nat) (ascending : Bool) :
    Prop where
  name : after.name = before.name
  maxRows : after.maxRows = before.maxRows
  maxColumns : after.maxColumns = before.maxColumns
  rows : SortedRows (column - span.column) ascending (before.block span) (after.block span)
  kept : ∀ row column, span.covers row column = false →
    after.cell? row column = before.cell? row column

theorem sorted_of_refilled {before after : Grid} {span : Span} {column : Nat}
    (refilled : Refilled before after span
      (sortRows (column - span.column) ascending (before.block span)))
    (real : ∀ row ∈ before.block span, sortKey (column - span.column) row ≠ .number .nan) :
    SortedBlock before after span column ascending where
  name := refilled.name
  maxRows := refilled.maxRows
  maxColumns := refilled.maxColumns
  rows := by
    rw [refilled.block]
    exact sorted_rows real
  kept := refilled.kept

end GridStore.Grid
