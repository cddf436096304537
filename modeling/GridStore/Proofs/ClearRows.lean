import GridStore.Proofs.Columns
import GridStore.Proofs.Region.Frame
import GridStore.Proofs.Region.Lines

/-!
Clearing rows of a region: what is blanked, and when it is what was asked for.

A row of a region is counted from one, and the line of the grid that it is taken for is a sum that
nobody checks. The grid refuses lines that it does not have. It cannot tell a line above the region,
which is where the zeroth row leads, and every row so large that the sum starts again at zero.
-/

set_option autoImplicit false

namespace GridStore

namespace Grid

variable {grid after : Grid}

theorem bounded_of_block {block found : Span} (addressable : block.Addressable)
    (read : grid.blockOfAddress block.a1 = .ok found) : grid.checkBounds block = .ok () := by
  rw [blockOfAddress, Span.of_a1_a1 addressable] at read
  obtain ⟨nothing, bounded, -⟩ := except_bind_ok_iff.1 read
  exact bounded

/-- Blocks are cleared by their addresses exactly if the grid has all of them. -/
theorem clear_addresses_ok_iff {blocks : List Span}
    (addressable : ∀ block ∈ blocks, block.Addressable) :
    grid.clear (blocks.map Span.a1) = .ok after ↔
      (∀ block ∈ blocks, grid.checkBounds block = .ok ()) ∧ after = grid.blankBlocks blocks := by
  constructor
  · intro cleared
    obtain ⟨found, read, finished⟩ := except_bind_ok_iff.1 cleared
    obtain rfl := blocks_of_a1 addressable read
    have beside := beside_of_map_m read
    rw [List.forall₂_map_left_iff, List.forall₂_same] at beside
    refine ⟨fun block member => ?_, (Except.ok.inj finished).symm⟩
    exact bounded_of_block (addressable block member) (beside block member)
  · rintro ⟨bounded, rfl⟩
    exact Region.clear_addresses fun block member =>
      ⟨addressable block member, bounded block member⟩

end Grid

namespace Region

variable {region measured after : Region}

theorem blocks_of_addresses {span : Span} {rows : List Nat} {addresses : List String}
    {aimed : Region} (listed : addressesOf span rows region = .ok addresses aimed) :
    ∃ blocks, addresses = blocks.map Span.a1 ∧ aimed.sheet.grid = region.sheet.grid ∧
      aimed.span = region.span ∧
      List.Forall₂ (fun row block => ∃ cache final,
        (rowAddress span row).resolve region.sheet.grid cache = .ok block final) rows blocks := by
  induction rows generalizing region addresses with
  | nil =>
      cases listed
      exact ⟨[], rfl, rfl, rfl, .nil⟩
  | cons row rest induction =>
      rw [addressesOf, List.mapM_cons, bind_assoc] at listed
      obtain ⟨block, between, ranged, listed⟩ := Action.bind_ok_iff.1 listed
      rw [pure_bind] at listed
      obtain ⟨others, last, there, finished⟩ := Action.bind_ok_iff.1 listed
      cases finished
      obtain ⟨sameSpan, sameGrid, cache, resolved⟩ := range_cases ranged
      obtain ⟨blocks, rfl, gridAfter, spanAfter, resolves⟩ := induction there
      rw [sameGrid] at gridAfter resolves
      exact ⟨block :: blocks, rfl, gridAfter, spanAfter.trans sameSpan,
        .cons ⟨_, cache, resolved⟩ resolves⟩

section Lines

variable {grid : Grid} {span : Span} {cache final : MetricCache}

/-- A block that the grid has is a line across the region, as the numbers in its address say. -/
theorem block_of_row {block : Span} {row : Nat} (exact : grid.IsExact) (wide : 1 ≤ span.columns)
    (resolved : (rowAddress span row).resolve grid cache = .ok block final)
    (bounded : grid.checkBounds block = .ok ()) :
    block = across span (lineOf span row) ∧
      (1 ≤ lineOf span row ∧ lineOf span row ≤ grid.maxRows) ∧
        span.lastColumn ≤ grid.maxColumns := by
  have exactRows : grid.rows.length < exactBound := exact.1
  have exactColumns : grid.columns < exactBound := exact.2
  obtain ⟨line, column, columns, -⟩ := Address.rounded_of_numbers resolved
  obtain ⟨⟨top, left, tall, broad⟩, bottom, right⟩ := Grid.inside_of_check bounded
  have sameLine : block.row = lineOf span row := line.eq_of_exact (Or.inl (by omega))
  have sameColumn : block.column = span.column := column.eq_of_exact (Or.inl (by omega))
  have sameColumns : block.columns = span.columns :=
    (columns.eq_of_exact (Or.inl (by omega))).trans (Nat.max_eq_right wide)
  have low : block.row ≤ grid.rows.length := by omega
  rw [sameLine] at top low
  rw [sameColumn] at left right
  rw [sameColumns] at right
  have resolves : (rowAddress span row).resolve grid cache =
      .ok (across span (lineOf span row)) cache :=
    row_resolves exact ⟨left, wide⟩ right ⟨top, low⟩
  exact ⟨(EStateM.Result.ok.inj (resolved.symm.trans resolves)).1, ⟨top, low⟩, right⟩

theorem lines_of_blocks {rows : List Nat} {blocks : List Span} (exact : grid.IsExact)
    (wide : 1 ≤ span.columns)
    (resolves : List.Forall₂ (fun row block => ∃ cache final,
      (rowAddress span row).resolve grid cache = .ok block final) rows blocks) :
    (∀ block ∈ blocks, block.Addressable) ∧
      ((∀ block ∈ blocks, grid.checkBounds block = .ok ()) →
        blocks = (rows.map (lineOf span)).map (across span) ∧
          ∀ row ∈ rows, (1 ≤ lineOf span row ∧ lineOf span row ≤ grid.maxRows) ∧
            span.lastColumn ≤ grid.maxColumns) := by
  induction resolves with
  | nil => exact ⟨List.forall_mem_nil _, fun _ => ⟨rfl, List.forall_mem_nil _⟩⟩
  | @cons row block rest others resolved _ induction =>
      obtain ⟨cache, final, resolved⟩ := resolved
      obtain ⟨addressable, later⟩ := induction
      obtain ⟨-, -, -, fits⟩ := Address.rounded_of_numbers resolved
      refine ⟨List.forall_mem_cons.2 ⟨fits, addressable⟩, fun bounded => ?_⟩
      obtain ⟨here, there⟩ := List.forall_mem_cons.1 bounded
      obtain ⟨same, inside⟩ := block_of_row exact wide resolved here
      obtain ⟨others, lines⟩ := later there
      rw [same, others]
      exact ⟨rfl, List.forall_mem_cons.2 ⟨inside, lines⟩⟩

end Lines

/-- Rows are cleared only where the grid has lines for all of them, and it is these lines that are
blanked. The region reaches the bottom of the grid afterwards. -/
theorem lines_of_clear_rows {rows : List Nat} (nonempty : rows ≠ [])
    (exact : region.sheet.grid.IsExact) (fits : region.span.Addressable)
    (ran : clearRows rows region = .ok () after) :
    HasLines region.sheet.grid region.span rows ∧
      after.sheet.grid = region.sheet.grid.blankBlocks
        ((rows.map (lineOf region.span)).map (across region.span)) ∧
      after.span.rows = region.sheet.grid.maxRows - (region.span.row - 1) := by
  obtain ⟨measured, addresses, aimed, grid, first, listed, cleared, last⟩ :=
    (clear_rows_ok_iff nonempty).1 ran
  obtain ⟨kept, sameGrid, -⟩ := measured_of_remeasure first exact.1
  obtain ⟨blocks, rfl, aimedGrid, aimedSpan, resolves⟩ := blocks_of_addresses listed
  rw [aimedGrid, sameGrid] at cleared
  rw [sameGrid] at resolves
  rw [aimedSpan] at last
  obtain ⟨⟨-, left, -, wide⟩, -⟩ := kept.addressable
  obtain ⟨addressable, within⟩ := lines_of_blocks exact wide resolves
  obtain ⟨bounded, rfl⟩ := (Grid.clear_addresses_ok_iff addressable).1 cleared
  obtain ⟨rfl, lines⟩ := within bounded
  obtain ⟨row, member⟩ := List.exists_mem_of_ne_nil rows nonempty
  have sameRows := region.sheet.grid.max_rows_of_blank
    ((rows.map (lineOf measured.span)).map (across measured.span))
  -- The columns have not been rounded, for the grid would not have them then.
  have same := to_bottom_of_measured kept fits.1.2.2.2 exact.2 (lines row member).2
  obtain ⟨final, -, again⟩ := remeasure_again .empty first exact.1 (Nat.le_of_eq sameRows.symm)
    (sameRows ▸ exact.1)
  rw [again] at last
  obtain rfl := (EStateM.Result.ok.inj last).2
  rw [same] at lines sameRows ⊢
  refine ⟨⟨kept.inside.2, (lines row member).2, fun row member => (lines row member).1⟩, rfl, ?_⟩
  exact congrArg (· - (region.span.row - 1)) sameRows

def heightFrame : Frame Region := .ofView fun region => region.sheet.grid.maxRows

theorem keeps_height {α : Type} {action : Action Region α} (keeps : gridFrame.Keeps action) :
    heightFrame.Keeps action where
  on_ok ran := congrArg Grid.maxRows (keeps.on_ok ran)
  on_error failed := congrArg Grid.maxRows (keeps.on_error failed)

theorem clear_keeps_height (addresses : List String) :
    heightFrame.Keeps (onSheet (Sheet.clear addresses)) where
  on_ok := by
    intro region nothing after ran
    obtain ⟨sheet, changed, rfl⟩ := on_sheet_ok_iff.1 ran
    obtain ⟨grid, updated, rfl⟩ := change_ok_iff.1 changed
    obtain ⟨blocks, -, finished⟩ := except_bind_ok_iff.1 updated
    obtain rfl := Except.ok.inj finished
    exact Grid.max_rows_of_blank _ _
  on_error := by
    intro region error after failed
    obtain ⟨sheet, refused, rfl⟩ := on_sheet_error_iff.1 failed
    cases updated : region.sheet.grid.clear addresses with
    | ok grid =>
        have done : Sheet.clear addresses region.sheet = .ok () ⟨grid, .empty⟩ :=
          change_ok_iff.2 ⟨grid, updated, rfl⟩
        rw [done] at refused
        cases refused
    | error cause =>
        have failed : Sheet.clear addresses region.sheet =
            .error (.grid cause) ⟨region.sheet.grid, .empty⟩ := change_error updated
        rw [failed] at refused
        cases refused
        rfl

theorem clear_rows_keeps_height (rows : List Nat) : heightFrame.Keeps (clearRows rows) := by
  unfold clearRows
  by_cases nothing : rows.isEmpty = true
  · rw [if_pos nothing]
    exact Frame.keeps_pure _
  · rw [if_neg nothing]
    refine Frame.keeps_bind (keeps_height remeasure_keeps_grid) fun _ => ?_
    refine Frame.keeps_bind Frame.keeps_get fun measured => ?_
    refine Frame.keeps_bind (Frame.keeps_map_m (fun row => ?_) rows) fun addresses => ?_
    · exact Frame.keeps_bind (keeps_height (range_keeps_grid _)) fun _ => Frame.keeps_pure _
    · exact Frame.keeps_bind (clear_keeps_height addresses) fun _ =>
        keeps_height remeasure_keeps_grid

/-- If clearing rows fails, it has not touched the grid. -/
theorem failed_clear_keeps_grid {rows : List Nat} {error : Error}
    (exact : region.sheet.grid.maxRows < exactBound)
    (failed : clearRows rows region = .error error after) :
    after.sheet.grid = region.sheet.grid := by
  have sameRows : after.sheet.grid.maxRows = region.sheet.grid.maxRows :=
    (clear_rows_keeps_height rows).on_error failed
  exact (clear_rows_fails_early rows exact).on_error failed (sameRows ▸ exact)

theorem blanked_of_clear_rows {rows : List Nat} (nonempty : rows ≠ [])
    (exact : region.sheet.grid.IsExact) (fits : region.span.Addressable)
    (ran : clearRows rows region = .ok () after) :
    Grid.LinesBlanked region.sheet.grid after.sheet.grid region.span
      (rows.map (lineOf region.span)) := by
  obtain ⟨has, blanked, -⟩ := lines_of_clear_rows nonempty exact fits ran
  rw [blanked]
  refine Grid.lines_blanked ⟨fits.1.2.1, fits.1.2.2.2⟩ has.right fun line member => ?_
  obtain ⟨row, listed, rfl⟩ := List.mem_map.1 member
  exact has.lines row listed

/-- Lines of the grid are rows of the region unless counting to them starts again at zero. -/
theorem inside_of_clear_rows {rows : List Nat} (nonempty : rows ≠ [])
    (exact : region.sheet.grid.IsExact) (fits : region.span.Addressable)
    (ran : clearRows rows region = .ok () after) {row : Nat} (member : row ∈ rows) :
    (1 ≤ row ∧ row ≤ after.span.rows) ↔
      1 ≤ row ∧ row + (region.span.row - 1) < Size.bound := by
  obtain ⟨has, -, height⟩ := lines_of_clear_rows nonempty exact fits ran
  have exactRows : region.sheet.grid.maxRows < exactBound := exact.1
  have bound : exactBound < Size.bound := by decide
  have top := fits.1.1
  have reaches := has.top
  rw [height]
  refine and_congr_right fun positive => ⟨fun inside => by omega, fun small => ?_⟩
  obtain ⟨-, low⟩ := has.lines row member
  rw [line_of_row small] at low
  omega

/-- Clearing rows blanks lines of the grid across the columns of the region, or fails and changes
nothing. The lines are rows of the region, and the ones asked for, exactly if no row is the zeroth
one or so large that the line it is taken for starts again at zero. -/
theorem cleared_rows_are_in_region_iff {region : Region} (exact : region.sheet.grid.IsExact)
    (validated : region.span.validated = .ok region.span) (rows : List Nat) :
    ((∃ after, clearRows rows region = .ok () after) ↔
      rows = [] ∨ HasLines region.sheet.grid region.span rows) ∧
    (∀ error stopped, clearRows rows region = .error error stopped →
      stopped.sheet.grid = region.sheet.grid) ∧
    ∀ after, clearRows rows region = .ok () after →
      Grid.LinesBlanked region.sheet.grid after.sheet.grid region.span
        (rows.map (lineOf region.span)) ∧
      ((∀ row ∈ rows, 1 ≤ row ∧ row ≤ after.span.rows) ∧
          Grid.LinesBlanked region.sheet.grid after.sheet.grid region.span
            (rows.map fun row => region.span.row + row - 1) ↔
        ∀ row ∈ rows, 1 ≤ row ∧ row + (region.span.row - 1) < Size.bound) := by
  obtain ⟨fits, -⟩ := Span.validated_ok_iff.1 validated
  refine ⟨⟨?_, ?_⟩, fun error stopped failed => failed_clear_keeps_grid exact.1 failed, ?_⟩
  · rintro ⟨after, ran⟩
    exact (Decidable.em (rows = [])).imp_right fun nonempty =>
      (lines_of_clear_rows nonempty exact fits ran).1
  · rintro (rfl | has)
    · exact ⟨region, rfl⟩
    · obtain ⟨after, ran, -⟩ :=
        clear_rows_of_lines exact ⟨fits.1.1, fits.1.2.1, fits.1.2.2.2⟩ has
      exact ⟨after, ran⟩
  · intro after ran
    by_cases nothing : rows = []
    · subst nothing
      cases ran
      have kept : Grid.LinesBlanked region.sheet.grid region.sheet.grid region.span [] :=
        ⟨rfl, rfl, rfl, List.forall_mem_nil _, fun _ _ _ => rfl⟩
      exact ⟨kept, iff_of_true ⟨List.forall_mem_nil _, kept⟩ (List.forall_mem_nil _)⟩
    · have blanked := blanked_of_clear_rows nothing exact fits ran
      refine ⟨blanked, fun asked row member =>
        (inside_of_clear_rows nothing exact fits ran member).1 (asked.1 row member),
        fun proper => ⟨fun row member =>
          (inside_of_clear_rows nothing exact fits ran member).2 (proper row member), ?_⟩⟩
      have same : (rows.map fun row => region.span.row + row - 1) =
          rows.map (lineOf region.span) := by
        apply List.map_congr_left
        intro row member
        have top := fits.1.1
        rw [line_of_row (proper row member).2]
        omega
      rw [same]
      exact blanked

def titled : Region where
  sheet := ⟨.ofRows "data" [[.empty, .string "a", .string "b"],
    [.empty, .string "1", .string "2"], [.empty, .string "3", .string "4"]], .empty⟩
  span := ⟨2, 2, 2, 2⟩

theorem titled_exact : titled.sheet.grid.IsExact := ⟨by decide, by decide⟩

theorem titled_validated : titled.span.validated = .ok titled.span := by decide

theorem last_row_is_cleared :
    titled.sheet.grid.IsExact ∧ titled.span.validated = .ok titled.span ∧
      ∃ after, clearRows [2] titled = .ok () after ∧
        (∀ row ∈ [2], 1 ≤ row ∧ row ≤ after.span.rows) ∧
        Grid.LinesBlanked titled.sheet.grid after.sheet.grid titled.span [3] := by
  have has : HasLines titled.sheet.grid titled.span [2] := ⟨by decide, by decide, by decide⟩
  have proper : ∀ row ∈ [2], 1 ≤ row ∧ row + (titled.span.row - 1) < Size.bound := by decide
  obtain ⟨succeeds, -, blanks⟩ :=
    cleared_rows_are_in_region_iff titled_exact titled_validated [2]
  obtain ⟨after, ran⟩ := succeeds.2 (Or.inr has)
  exact ⟨titled_exact, titled_validated, after, ran, (blanks after ran).2.2 proper⟩

/-- The zeroth row is taken for the line above the region, and the titles are gone. -/
theorem zeroth_row_clears_titles :
    ∃ after, clearRows [0] titled = .ok () after ∧
      titled.sheet.grid.cell? 1 2 = some (.string "a") ∧
      after.sheet.grid.cell? 1 2 = some .empty ∧
      ¬∀ row ∈ [0], 1 ≤ row ∧ row ≤ after.span.rows := by
  have has : HasLines titled.sheet.grid titled.span [0] := ⟨by decide, by decide, by decide⟩
  obtain ⟨after, ran, blanked⟩ := clear_rows_of_lines titled_exact (by decide) has
  refine ⟨after, ran, by decide, ?_, by simp⟩
  rw [blanked]
  decide

end Region

end GridStore
