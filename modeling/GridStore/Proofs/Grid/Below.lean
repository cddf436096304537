import GridStore.Proofs.Canonical.Grid

/-!
Writing rows below rows. Two blocks of one width, one right below the other, can be written one
after the other or at once. The last row with content moves down to a row that is written below it,
if that row has content itself.
-/

set_option autoImplicit false

namespace GridStore.Grid

variable {grid before middle after other : Grid} {span : Span} {values others : List Row}
  {row column width : Nat}

theorem IsLastFilledRow.unique {first second : Nat} (one : grid.IsLastFilledRow first)
    (two : grid.IsLastFilledRow second) : first = second := by
  rcases Nat.lt_trichotomy first second with below | same | above
  · obtain ⟨column, cell, held, filled⟩ := two.2 (Nat.zero_lt_of_lt below)
    cases filled.symm.trans (one.1 second column cell below held)
  · exact same
  · obtain ⟨column, cell, held, filled⟩ := one.2 (Nat.zero_lt_of_lt above)
    cases filled.symm.trans (two.1 first column cell above held)

theorem Written.unique (first : Written before after span values)
    (second : Written before other span values) : other = after := by
  have rows : other.maxRows = after.maxRows := second.maxRows.trans first.maxRows.symm
  have columns : other.maxColumns = after.maxColumns :=
    second.maxColumns.trans first.maxColumns.symm
  apply eq_of_cells (second.name.trans first.name.symm) rows columns
  intro row column
  cases covered : span.covers row column with
  | true => rw [first.inside row column covered, second.inside row column covered]
  | false =>
      cases held : before.cell? row column with
      | some cell =>
          rw [first.kept row column cell covered held, second.kept row column cell covered held]
      | none =>
          have allocated := isSome_cell? other row column
          rw [rows, columns, ← isSome_cell?] at allocated
          cases one : after.cell? row column with
          | none =>
              rw [one] at allocated
              simpa using allocated
          | some cell =>
              obtain ⟨another, two⟩ := Option.isSome_iff_exists.1 (allocated.2 (by rw [one]; rfl))
              rw [two, first.fresh row column cell covered held one,
                second.fresh row column another covered held two]

theorem size_of_shape {head : Row} {rest : List Row}
    (shaped : hasShape (head :: rest) span = true) :
    span.rows = (head :: rest).length ∧ span.columns = head.length := by
  simp only [hasShape, Bool.and_eq_true, beq_iff_eq, List.all_eq_true] at shaped
  exact ⟨shaped.1.symm, (shaped.2 head List.mem_cons_self).symm⟩

theorem has_shape_iff_widths :
    hasShape values ⟨row, column, values.length, width⟩ = true ↔
      ∀ cells ∈ values, cells.length = width := by
  simp [hasShape]

/-- Rows of one width that are written below others of that width could have been written together
with them. -/
theorem Written.below (some : others ≠ [])
    (first : Written before middle ⟨row, column, values.length, width⟩ values)
    (second : Written middle after ⟨row + values.length, column, others.length, width⟩ others) :
    Written before after ⟨row, column, (values ++ others).length, width⟩ (values ++ others) := by
  have positive := List.length_pos_iff.2 some
  have apart : ∀ line place,
      Span.covers ⟨row, column, (values ++ others).length, width⟩ line place = false →
      Span.covers ⟨row, column, values.length, width⟩ line place = false ∧
        Span.covers ⟨row + values.length, column, others.length, width⟩ line place = false := by
    intro line place
    simp only [← Bool.not_eq_true, Span.covers_iff, List.length_append]
    omega
  refine ⟨?_, second.name.trans first.name, ?_, ?_, ?_, ?_, ?_⟩
  · apply has_shape_iff_widths.2
    intro cells member
    rcases List.mem_append.1 member with early | late
    · exact has_shape_iff_widths.1 first.shaped cells early
    · exact has_shape_iff_widths.1 second.shaped cells late
  · rw [second.maxRows, first.maxRows]
    simp only [Span.lastRow, List.length_append]
    omega
  · rw [second.maxColumns, first.maxColumns]
    simp only [Span.lastColumn]
    omega
  · intro line place covered
    simp only [Span.covers_iff, List.length_append] at covered
    obtain ⟨⟨top, bottom⟩, sides⟩ := covered
    rw [valueAt?]
    dsimp only
    -- The rows above are written first, and the second write does not touch them.
    by_cases early : line < row + values.length
    · have above : Span.covers ⟨row, column, values.length, width⟩ line place = true :=
        Span.covers_iff.2 ⟨⟨top, early⟩, sides⟩
      have missed : Span.covers ⟨row + values.length, column, others.length, width⟩ line place =
          false := by
        rw [← Bool.not_eq_true, Span.covers_iff]
        simp only
        omega
      obtain ⟨cell, value⟩ := value_at_shaped first.shaped above
      have between := (first.inside line place above).trans value
      have listed : line - row < values.length := by omega
      rw [second.kept line place cell missed between, List.getElem?_append_left listed]
      exact value.symm
    · have below : Span.covers ⟨row + values.length, column, others.length, width⟩ line place =
          true := Span.covers_iff.2 ⟨by simp only; omega, sides⟩
      have offset : line - row - values.length = line - (row + values.length) := by omega
      rw [second.inside line place below, List.getElem?_append_right (by omega), offset]
      rfl
  · intro line place cell outside held
    obtain ⟨above, below⟩ := apart line place outside
    exact second.kept line place cell below (first.kept line place cell above held)
  · intro line place cell outside missing held
    obtain ⟨above, below⟩ := apart line place outside
    cases between : middle.cell? line place with
    | none => exact second.fresh line place cell below between held
    | some filled =>
        cases held.symm.trans (second.kept line place filled below between)
        exact first.fresh line place cell above missing between

/-- A row with content that is written right below all content becomes the last one with content. -/
theorem last_row_of_written {cells : Row}
    (wrote : Written before after ⟨before.lastRow + 1, column, 1, width⟩ [cells])
    (filled : ∃ cell ∈ cells, cell.isBlank = false) : after.lastRow = before.lastRow + 1 := by
  apply after.last_row_is_last_filled.unique
  have last := before.last_row_is_last_filled
  constructor
  · intro line place cell below held
    have outside : Span.covers ⟨before.lastRow + 1, column, 1, width⟩ line place = false := by
      rw [← Bool.not_eq_true, Span.covers_iff]
      simp only
      omega
    cases known : before.cell? line place with
    | none => rw [wrote.fresh line place cell outside known held, Cell.isBlank]
    | some older =>
        cases held.symm.trans (wrote.kept line place older outside known)
        exact last.1 line place cell (by omega) known
  · intro positive
    obtain ⟨cell, member, content⟩ := filled
    obtain ⟨index, listed⟩ := List.getElem?_of_mem member
    have short := (List.getElem?_eq_some_iff.1 listed).1
    have wide := has_shape_iff_widths.1 wrote.shaped cells (List.mem_singleton.2 rfl)
    have covered : Span.covers ⟨before.lastRow + 1, column, 1, width⟩ (before.lastRow + 1)
        (column + index) = true := by
      rw [Span.covers_iff]
      simp only
      omega
    refine ⟨column + index, cell, ?_, content⟩
    rw [wrote.inside _ _ covered, Nat.sub_self, Nat.add_sub_cancel_left]
    exact listed

end GridStore.Grid
