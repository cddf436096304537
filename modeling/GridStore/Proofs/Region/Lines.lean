import GridStore.Proofs.Region.Steps

/-!
Lines of a grid across a region, and clearing them by the rows of the region that they are.
-/

set_option autoImplicit false

namespace GridStore

namespace Region

/-- The line of the grid that a row of a region is taken for. -/
def lineOf (span : Span) (row : Nat) : Nat := Size.wrapped (row + (span.row - 1))

def across (span : Span) (line : Nat) : Span := ⟨line, span.column, 1, span.columns⟩

def rowSpan (span : Span) (row : Nat) : Span := ⟨row + (span.row - 1), span.column, 1, span.columns⟩

end Region

namespace Grid

/-- Some lines of a grid are blanked between the outer columns of a block, and all else stays. -/
structure LinesBlanked (before after : Grid) (span : Span) (lines : List Nat) : Prop where
  name : after.name = before.name
  maxRows : after.maxRows = before.maxRows
  maxColumns : after.maxColumns = before.maxColumns
  blanked : ∀ line ∈ lines, ∀ column, span.column ≤ column → column ≤ span.lastColumn →
    after.cell? line column = some .empty
  kept : ∀ row column, (row ∈ lines → column < span.column ∨ span.lastColumn < column) →
    after.cell? row column = before.cell? row column

variable {grid : Grid} {span : Span} {lines : List Nat}

theorem across_covers {line row column : Nat} (wide : 1 ≤ span.columns) :
    (Region.across span line).covers row column = true ↔
      row = line ∧ span.column ≤ column ∧ column ≤ span.lastColumn := by
  rw [Span.covers_iff]
  simp only [Region.across, Span.lastColumn]
  omega

theorem max_rows_of_blank (grid : Grid) (blocks : List Span) :
    (grid.blankBlocks blocks).maxRows = grid.maxRows := List.length_mapIdx

theorem lines_blanked (corner : 1 ≤ span.column ∧ 1 ≤ span.columns)
    (right : span.lastColumn ≤ grid.maxColumns)
    (inside : ∀ line ∈ lines, 1 ≤ line ∧ line ≤ grid.maxRows) :
    LinesBlanked grid (grid.blankBlocks (lines.map (Region.across span))) span lines := by
  have covered : ∀ row column, (lines.map (Region.across span)).any
      (fun block => block.covers row column) = true ↔
        row ∈ lines ∧ span.column ≤ column ∧ column ≤ span.lastColumn := by
    intro row column
    simp only [List.any_map, List.any_eq_true, Function.comp_apply, across_covers corner.2]
    constructor
    · rintro ⟨line, member, rfl, within⟩
      exact ⟨member, within⟩
    · rintro ⟨member, within⟩
      exact ⟨row, member, rfl, within⟩
  refine ⟨rfl, List.length_mapIdx, rfl, ?_, ?_⟩
  · intro line member column left past
    have allocated : (1 ≤ line ∧ line ≤ grid.maxRows) ∧ 1 ≤ column ∧ column ≤ grid.maxColumns :=
      ⟨inside line member, Nat.le_trans corner.1 left, Nat.le_trans past right⟩
    obtain ⟨held, cell⟩ := Option.isSome_iff_exists.1 ((isSome_cell? grid _ _).2 allocated)
    rw [cell_of_blank_blocks, cell, Option.map_some, if_pos ((covered line column).2
      ⟨member, left, past⟩)]
  · intro row column outside
    have missed : ¬(lines.map (Region.across span)).any
        (fun block => block.covers row column) = true := by
      rw [covered]
      rintro ⟨member, left, past⟩
      have beside := outside member
      omega
    rw [cell_of_blank_blocks]
    simp only [if_neg missed, Option.map_id']

end Grid

namespace Region

variable {region after : Region}

def addressesOf (span : Span) (rows : List Nat) : Action Region (List String) :=
  rows.mapM fun row => do return (← onSheet (Sheet.range (rowAddress span row))).a1

/-- The steps of clearing some rows: measuring, finding the blocks, blanking, and measuring
again. -/
theorem clear_rows_ok_iff {rows : List Nat} (nonempty : rows ≠ []) :
    clearRows rows region = .ok () after ↔
      ∃ measured addresses aimed grid, remeasure region = .ok () measured ∧
        addressesOf measured.span rows measured = .ok addresses aimed ∧
        aimed.sheet.grid.clear addresses = .ok grid ∧
        remeasure ⟨⟨grid, .empty⟩, aimed.span⟩ = .ok () after := by
  rw [clearRows, if_neg (by simpa using nonempty), Action.bind_ok_iff]
  constructor
  · rintro ⟨⟨⟩, measured, first, ran⟩
    rw [Action.bind_of_ok Action.get_apply] at ran
    obtain ⟨addresses, aimed, listed, ran⟩ := Action.bind_ok_iff.1 ran
    obtain ⟨⟨⟩, cleared, clears, last⟩ := Action.bind_ok_iff.1 ran
    obtain ⟨sheet, changed, rfl⟩ := on_sheet_ok_iff.1 clears
    obtain ⟨grid, updated, rfl⟩ := change_ok_iff.1 changed
    exact ⟨measured, addresses, aimed, grid, first, listed, updated, last⟩
  · rintro ⟨measured, addresses, aimed, grid, first, listed, updated, last⟩
    have cleared : onSheet (Sheet.clear addresses) aimed = .ok () ⟨⟨grid, .empty⟩, aimed.span⟩ :=
      on_sheet_ok (change_ok_iff.2 ⟨grid, updated, rfl⟩)
    refine ⟨(), measured, first, ?_⟩
    rw [Action.bind_of_ok Action.get_apply]
    exact (Action.bind_of_ok listed).trans ((Action.bind_of_ok cleared).trans last)

section Lines

variable {grid : Grid} {span : Span} {cache : MetricCache}

theorem row_resolves {row : Nat} (exact : grid.IsExact)
    (corner : 1 ≤ span.column ∧ 1 ≤ span.columns) (right : span.lastColumn ≤ grid.maxColumns)
    (inside : 1 ≤ lineOf span row ∧ lineOf span row ≤ grid.maxRows) :
    (rowAddress span row).resolve grid cache = .ok (across span (lineOf span row)) cache := by
  obtain ⟨exactRows, exactColumns⟩ := exact
  rw [Span.lastColumn] at right
  have line : lineOf span row ≤ exactBound := Nat.le_of_lt (Nat.lt_of_le_of_lt inside.2 exactRows)
  have column : span.column ≤ exactBound := by omega
  have columns : span.columns ≤ exactBound := by omega
  have one : 1 ≤ 1 ∧ 1 ≤ exactBound := by decide
  have found : (Address.ofSpan (across span (lineOf span row))).resolve grid cache =
      .ok (across span (lineOf span row)) cache :=
    Address.resolve_of_span ⟨inside.1, line⟩ ⟨corner.1, column⟩ one ⟨corner.2, columns⟩
  exact found

theorem across_inside {line : Nat} (exact : grid.IsExact)
    (corner : 1 ≤ span.column ∧ 1 ≤ span.columns) (right : span.lastColumn ≤ grid.maxColumns)
    (inside : 1 ≤ line ∧ line ≤ grid.maxRows) :
    (across span line).Addressable ∧ grid.checkBounds (across span line) = .ok () := by
  have exactRows : grid.maxRows < exactBound := exact.1
  have exactColumns : grid.maxColumns < exactBound := exact.2
  have bound : exactBound + exactBound ≤ Size.largest := by decide
  rw [Span.lastColumn] at right
  refine ⟨⟨⟨inside.1, corner.1, Nat.le_refl 1, corner.2⟩, ?_, ?_⟩,
    Grid.check_bounds_ok_iff.2 ⟨?_, ?_, right⟩⟩
  · show line + 1 ≤ Size.largest
    omega
  · show span.column + span.columns ≤ Size.largest
    omega
  · simp only [Span.isDegenerate, across, Bool.or_eq_false_iff, beq_eq_false_iff_ne]
    omega
  · show line + 1 - 1 ≤ grid.maxRows
    omega

/-- The grid has the corner of a region, its columns, and the lines that some rows are taken for. -/
structure HasLines (grid : Grid) (span : Span) (rows : List Nat) : Prop where
  top : span.row ≤ grid.maxRows
  right : span.lastColumn ≤ grid.maxColumns
  lines : ∀ row ∈ rows, 1 ≤ lineOf span row ∧ lineOf span row ≤ grid.maxRows

end Lines

/-- Lines that the grid has are blanked, whichever rows they are asked for as. -/
theorem clear_rows_of_lines {rows : List Nat} (exact : region.sheet.grid.IsExact)
    (corner : 1 ≤ region.span.row ∧ 1 ≤ region.span.column ∧ 1 ≤ region.span.columns)
    (has : HasLines region.sheet.grid region.span rows) :
    ∃ after, clearRows rows region = .ok () after ∧
      after.sheet.grid = region.sheet.grid.blankBlocks
        ((rows.map (lineOf region.span)).map (across region.span)) := by
  by_cases nothing : rows = []
  · subst nothing
    exact ⟨region, rfl, (blank_no_blocks _).symm⟩
  · obtain ⟨top, left, wide⟩ := corner
    have exactColumns : region.sheet.grid.maxColumns < exactBound := exact.2
    have right := has.right
    rw [Span.lastColumn] at right
    obtain ⟨cache, -, first⟩ := remeasure_inside region.sheet.cache exact ⟨top, has.top⟩
      ⟨left, by omega⟩ ⟨wide, by omega⟩
    -- Measuring changes the height of the region only, which the addresses of rows do not use.
    have ranges : ∀ row ∈ rows,
        Sheet.range (rowAddress (toBottom region.sheet.grid region.span) row)
          ⟨region.sheet.grid, cache⟩ =
            .ok (across region.span (lineOf region.span row)) ⟨region.sheet.grid, cache⟩ :=
      fun row member => range_ok_iff.2
        ⟨cache, row_resolves exact ⟨left, wide⟩ has.right (has.lines row member), rfl⟩
    have blocks : ∀ block ∈ rows.map fun row => across region.span (lineOf region.span row),
        block.Addressable ∧ region.sheet.grid.checkBounds block = .ok () := by
      intro block member
      obtain ⟨row, listed, rfl⟩ := List.mem_map.1 member
      exact across_inside exact ⟨left, wide⟩ has.right (has.lines row listed)
    have cleared := clear_addresses blocks
    rw [List.map_map] at cleared
    obtain ⟨final, -, last⟩ := remeasure_again .empty first exact.1
      (Nat.le_of_eq (Grid.max_rows_of_blank _ _).symm)
      ((Grid.max_rows_of_blank _ _).symm ▸ exact.1)
    refine ⟨_, (clear_rows_ok_iff nothing).2
      ⟨_, _, _, _, first, row_addresses ranges, cleared, last⟩, ?_⟩
    rw [List.map_map]
    rfl

theorem line_of_row {span : Span} {row : Nat} (small : row + (span.row - 1) < Size.bound) :
    lineOf span row = row + (span.row - 1) := Nat.mod_eq_of_lt small

/-- Rows of a region that can be read are cleared, all of them. -/
theorem clear_rows_inside {grid : Grid} {span : Span} {rows : List Nat} (cache : MetricCache)
    (exact : grid.IsExact) (readable : grid.checkBounds span = .ok ())
    (inside : ∀ row ∈ rows, 1 ≤ row ∧ row ≤ span.rows) :
    ∃ after, clearRows rows ⟨⟨grid, cache⟩, span⟩ = .ok () after ∧
      after.sheet.grid = grid.blankBlocks (rows.map (rowSpan span)) := by
  obtain ⟨top, left, wide, bottom⟩ := exact_of_readable exact readable
  obtain ⟨-, -, right⟩ := Grid.inside_of_check readable
  have exactRows : grid.maxRows < exactBound := exact.1
  have bound : exactBound < Size.bound := by decide
  have lines : ∀ row ∈ rows, lineOf span row = row + (span.row - 1) := by
    intro row member
    have within := inside row member
    exact line_of_row (by omega)
  have has : HasLines grid span rows := by
    refine ⟨top.2, right, fun row member => ?_⟩
    have within := inside row member
    rw [lines row member]
    omega
  obtain ⟨after, cleared, blanked⟩ : ∃ after, clearRows rows ⟨⟨grid, cache⟩, span⟩ = .ok () after ∧
      after.sheet.grid = grid.blankBlocks ((rows.map (lineOf span)).map (across span)) :=
    clear_rows_of_lines exact ⟨top.1, left.1, wide.1⟩ has
  rw [List.map_congr_left lines, List.map_map] at blanked
  exact ⟨after, cleared, blanked⟩

end Region

end GridStore
