import GridStore.Proofs.Append
import GridStore.Proofs.Grid.Below
import GridStore.Proofs.Region.Failure

/-!
Appending rows one by one, against appending them at once. Both go below all content, and a row with
content takes the place right above where the next one goes. Whether rows of one width are accepted
depends on that width only, so that the first row decides for all of them.
-/

set_option autoImplicit false

namespace GridStore.Region

open Address

variable {region measured between after : Region} {grid : Grid} {cache final : MetricCache}
  {rows rest : List Row} {head : Row} {column count width : Nat}

section Target

/-- The width of new rows is rounded; a width of zero is taken for one that is left out. -/
theorem width_of_new_rows {target : Span} (positive : 1 ≤ column)
    (resolved : resolve grid (appendAddress column count width) cache = .ok target final) :
    RoundedTo (max 1 width) target.columns := by
  rw [appendAddress, resolve_text_row (by decide) (by decide) (is_present_iff.2 positive),
    resolve_tokens_ok_iff] at resolved
  obtain ⟨row, columnValue, rowsValue, columnsValue, cache₁, cache₂, cache₃, -, -, -, wide,
    ⟨-, -, -, columnsFit⟩, spanned, -⟩ := resolved
  have rounded := rounded_of_coordinate (coordinate_or_one wide).1 columnsFit
  rw [spanned]
  exact rounded

theorem resolve_kept_rows (faithful : cache.IsFaithful grid) (exact : grid.lastRow < exactBound)
    (columnKept : IsKept column) (countExact : 1 ≤ count ∧ count ≤ exactBound)
    (widthKept : IsKept width) (positive : 1 ≤ column ∧ 1 ≤ width)
    (right : column + width ≤ Size.largest) :
    ∃ cache', resolve grid (appendAddress column count width) cache =
      .ok ⟨grid.lastRow + 1, column, count, width⟩ cache' := by
  obtain ⟨cache', -, below⟩ := coordinate_below_content faithful exact
  have addressable : Span.Addressable ⟨grid.lastRow + 1, column, count, width⟩ :=
    ⟨⟨Nat.succ_pos _, positive.1, countExact.1, positive.2⟩,
      exact_sum_addressable exact countExact.2, right⟩
  refine ⟨cache', ?_⟩
  rw [appendAddress, resolve_text_row (by decide) (by decide) (is_present_iff.2 positive.1)]
  exact resolve_kept_tokens below (coordinate_of_nat column) (or_one_coordinate countExact.1)
    (or_one_coordinate positive.2) (kept_of_exact (Nat.succ_pos _) exact) columnKept
    (kept_of_exact countExact.1 countExact.2) widthKept addressable

end Target

theorem kept_of_remeasure (ran : remeasure region = .ok () measured) :
    IsKept measured.span.column ∧ measured.span.Addressable := by
  obtain ⟨span, cache, resolved, rfl⟩ := remeasure_ok_iff.1 ran
  obtain ⟨-, column, -, addressable⟩ := rounded_of_numbers resolved
  exact ⟨column.kept, addressable⟩

/-- Measuring a region goes by its corner and its width. -/
theorem remeasure_to_bottom (grid other : Grid) (span : Span) :
    remeasure ⟨⟨grid, .empty⟩, toBottom other span⟩ = .ok () after ↔
      remeasure ⟨⟨grid, .empty⟩, span⟩ = .ok () after := by
  rw [remeasure_ok_iff, remeasure_ok_iff]
  rfl

/-- Once it has been measured, a region has room for rows of some width, which numbers keep. -/
structure Admits (region measured : Region) (width : Nat) : Prop where
  measures : remeasure region = .ok () measured
  narrow : width ≤ measured.span.columns
  kept : IsKept width

/-- Rows of one width, which fit below the content of a grid whose rows are counted exactly. -/
structure EvenRows (region : Region) (rows : List Row) (width : Nat) : Prop where
  exact : region.sheet.grid.maxRows < exactBound
  room : region.sheet.grid.lastRow + rows.length < exactBound
  some : rows ≠ []
  positive : 1 ≤ width
  widths : ∀ row ∈ rows, row.length = width

theorem last_row_of_even (even : EvenRows region rows width) :
    region.sheet.grid.lastRow < exactBound :=
  Nat.lt_of_le_of_lt (Nat.le_add_right _ _) even.room

/-- The block that rows are written to lies right below all content and has their size. -/
theorem block_of_even {target : Span} (even : EvenRows region (head :: rest) width)
    (first : remeasure region = .ok () measured)
    (resolved : resolve region.sheet.grid
      (appendAddress measured.span.column (head :: rest).length head.length)
        measured.sheet.cache = .ok target final)
    (filled : region.sheet.grid.write target (head :: rest) = .ok grid) :
    target = ⟨region.sheet.grid.lastRow + 1, measured.span.column, (head :: rest).length, width⟩ ∧
      IsKept width := by
  have sameWidth := even.widths head List.mem_cons_self
  obtain ⟨-, sameGrid, faithful⟩ := measured_of_remeasure first even.exact
  obtain ⟨columnKept, addressable⟩ := kept_of_remeasure first
  have left := addressable.1.2.1
  obtain ⟨row, -, proper⟩ := target_below_content faithful (last_row_of_even even) left resolved
  obtain ⟨rounded, -⟩ := corner_below_content faithful left resolved
  have shaped := (Grid.written_of_write ⟨proper.1.1, proper.1.2.1⟩ filled).shaped
  obtain ⟨sameRows, sameColumns⟩ := Grid.size_of_shape shaped
  have kept := (width_of_new_rows left resolved).kept
  rw [sameColumns, sameWidth] at kept
  constructor
  · cases target
    exact (Span.mk.injEq ..).mpr
      ⟨row, rounded.eq_of_kept columnKept, sameRows, sameColumns.trans sameWidth⟩
  · exact kept

theorem append_even_ok_iff (even : EvenRows region rows width) :
    append rows region = .ok () after ↔
      ∃ measured grid, Admits region measured width ∧
        region.sheet.grid.write
          ⟨region.sheet.grid.lastRow + 1, measured.span.column, rows.length, width⟩ rows =
            .ok grid ∧
        remeasure ⟨⟨grid, .empty⟩, measured.span⟩ = .ok () after := by
  obtain ⟨head, rest, rfl⟩ := List.exists_cons_of_ne_nil even.some
  have sameWidth := even.widths head List.mem_cons_self
  rw [append_ok_iff]
  constructor
  · intro ran
    obtain ⟨measured, target, cache, grid, first, wideEnough, -, resolved, filled, last⟩ := ran
    rw [grid_of_remeasure first] at resolved filled
    obtain ⟨block, kept⟩ := block_of_even even first resolved filled
    rw [block] at filled
    exact ⟨measured, grid, ⟨first, sameWidth ▸ wideEnough, kept⟩, filled, last⟩
  · intro ran
    obtain ⟨measured, grid, admits, filled, last⟩ := ran
    obtain ⟨-, sameGrid, faithful⟩ := measured_of_remeasure admits.measures even.exact
    obtain ⟨columnKept, ⟨⟨-, left, -, -⟩, -, right⟩⟩ := kept_of_remeasure admits.measures
    have few : (head :: rest).length ≤ exactBound :=
      Nat.le_of_lt (Nat.lt_of_le_of_lt (Nat.le_add_left _ _) even.room)
    obtain ⟨cache, resolved⟩ := resolve_kept_rows faithful (last_row_of_even even) columnKept
      ⟨Nat.succ_pos _, few⟩ admits.kept ⟨left, even.positive⟩
      (Nat.le_trans (Nat.add_le_add_left admits.narrow _) right)
    rw [← sameGrid] at resolved filled
    rw [sameWidth]
    exact ⟨measured, _, cache, grid, admits.measures, admits.narrow, even.widths, resolved, filled,
      last⟩

theorem exact_of_even (even : EvenRows region rows width)
    (wrote : Grid.Written region.sheet.grid grid
      ⟨region.sheet.grid.lastRow + 1, column, rows.length, width⟩ rows) :
    region.sheet.grid.maxRows ≤ grid.maxRows ∧ grid.maxRows < exactBound := by
  have exact := even.exact
  have room := even.room
  rw [wrote.maxRows, Span.lastRow]
  simp only
  omega

/-- Rows that a region admits are written, and the region is measured again without fail. -/
theorem append_of_admits (even : EvenRows region rows width)
    (admits : Admits region measured width) :
    ∃ grid cache, region.sheet.grid.write
        ⟨region.sheet.grid.lastRow + 1, measured.span.column, rows.length, width⟩ rows = .ok grid ∧
      Grid.Written region.sheet.grid grid
        ⟨region.sheet.grid.lastRow + 1, measured.span.column, rows.length, width⟩ rows ∧
      remeasure ⟨⟨grid, .empty⟩, measured.span⟩ =
        .ok () ⟨⟨grid, cache⟩, toBottom grid measured.span⟩ := by
  obtain ⟨-, ⟨⟨-, left, -, -⟩, -⟩⟩ := kept_of_remeasure admits.measures
  obtain ⟨grid, filled⟩ :=
    Grid.write_shaped region.sheet.grid (Grid.has_shape_iff_widths.2 even.widths)
  have corner : 1 ≤ region.sheet.grid.lastRow + 1 ∧ 1 ≤ measured.span.column :=
    ⟨Nat.succ_pos _, left⟩
  have wrote := Grid.written_of_write corner filled
  obtain ⟨grown, exactAfter⟩ := exact_of_even even wrote
  obtain ⟨cache, -, last⟩ := remeasure_again .empty admits.measures even.exact grown exactAfter
  exact ⟨grid, cache, filled, wrote, last⟩

/-- If numbers do not keep the width of rows, then the block that they would go to has another
one. -/
theorem unwritten_of_unkept {target : Span} (even : EvenRows region (head :: rest) width)
    (first : remeasure region = .ok () measured) (lost : ¬IsKept width)
    (resolved : resolve measured.sheet.grid
      (appendAddress measured.span.column (head :: rest).length width) measured.sheet.cache =
        .ok target final) :
    measured.sheet.grid.write target (head :: rest) = .error (.wrongShape target) := by
  have left := (kept_of_remeasure first).2.1.2.1
  have misshapen : ¬Grid.hasShape (head :: rest) target = true := by
    intro shaped
    have kept := (width_of_new_rows left resolved).kept
    rw [(Grid.size_of_shape shaped).2, even.widths head List.mem_cons_self] at kept
    exact lost kept
  exact if_neg misshapen

/-- Rows that a region does not admit are refused, and the grid stays as it is. -/
theorem append_refused (even : EvenRows region rows width)
    (refused : ∀ measured, ¬Admits region measured width) :
    ∃ error stopped, append rows region = .error error stopped ∧
      stopped.sheet.grid = region.sheet.grid := by
  obtain ⟨head, rest, rfl⟩ := List.exists_cons_of_ne_nil even.some
  obtain ⟨sameWidth, -⟩ := List.forall_mem_cons.1 even.widths
  cases first : remeasure region with
  | error error stopped =>
      have kept : stopped.sheet.grid = region.sheet.grid := remeasure_keeps_grid.on_error first
      refine ⟨error, stopped, ?_, kept⟩
      rw [append, Action.bind_of_error first]
  | ok nothing measured =>
      have sameGrid := grid_of_remeasure first
      have goes := append_after_measuring head rest first
      rw [sameWidth] at goes
      by_cases wide : measured.span.columns < width
      · rw [if_pos wide] at goes
        exact ⟨_, measured, goes, sameGrid⟩
      · have same : ¬((head :: rest).any fun row => row.length != width) = true := by
          simpa using even.widths
        rw [if_neg wide, if_neg same] at goes
        cases aimed : onSheet (Sheet.range (appendAddress measured.span.column
            (head :: rest).length width)) measured with
        | error error stopped =>
            refine ⟨error, stopped, goes.trans (Action.bind_of_error aimed), ?_⟩
            exact ((range_keeps_grid _).on_error aimed).trans sameGrid
        | ok target middle =>
            obtain ⟨sheet, ranged, rfl⟩ := on_sheet_ok_iff.1 aimed
            obtain ⟨cache, resolved, rfl⟩ := range_ok_iff.1 ranged
            have lost : ¬IsKept width := by
              intro kept
              exact refused measured ⟨first, Nat.le_of_not_lt wide, kept⟩
            have unwritten := unwritten_of_unkept even first lost resolved
            exact ⟨_, _, goes.trans ((Action.bind_of_ok aimed).trans
              (Action.bind_of_error (change_refused unwritten))), sameGrid⟩

def Filled (rows : List Row) : Prop := ∀ row ∈ rows, ∃ cell ∈ row, cell.isBlank = false

theorem EvenRows.single (even : EvenRows region (head :: rest) width) :
    EvenRows region [head] width where
  exact := even.exact
  room := Nat.lt_of_le_of_lt (by simp) even.room
  some := List.cons_ne_nil _ _
  positive := even.positive
  widths := List.forall_mem_singleton.2 (even.widths head List.mem_cons_self)

/-- A row that is admitted is appended, and leaves the region ready for more rows of its width. More
rows may then be appended, and come to be where they would have come together with the first. -/
theorem append_step (even : EvenRows region (head :: rest) width) (some : rest ≠ [])
    (filled : ∃ cell ∈ head, cell.isBlank = false) (admits : Admits region measured width) :
    ∃ between next, append [head] region = .ok () between ∧ EvenRows between rest width ∧
      Admits between next width ∧
      ∀ after, append rest between = .ok () after → append (head :: rest) region = .ok () after := by
  obtain ⟨grid, cache, filledFirst, wroteFirst, lastFirst⟩ := append_of_admits even.single admits
  have single := (append_even_ok_iff even.single).2
    ⟨measured, grid, admits, filledFirst, lastFirst⟩
  have down : grid.lastRow = region.sheet.grid.lastRow + 1 :=
    Grid.last_row_of_written wroteFirst filled
  obtain ⟨grown, exact⟩ := exact_of_even even.single wroteFirst
  have evenRest : EvenRows ⟨⟨grid, cache⟩, toBottom grid measured.span⟩ rest width := by
    refine ⟨exact, ?_, some, even.positive, (List.forall_mem_cons.1 even.widths).2⟩
    have room := even.room
    rw [List.length_cons] at room
    show grid.lastRow + rest.length < exactBound
    omega
  obtain ⟨cacheNext, -, again⟩ := remeasure_again cache lastFirst exact (Nat.le_refl _) exact
  have admitsNext : Admits ⟨⟨grid, cache⟩, toBottom grid measured.span⟩ _ width :=
    ⟨again, admits.narrow, admits.kept⟩
  refine ⟨_, _, single, evenRest, admitsNext, ?_⟩
  -- The rest begins right below the first row, so that the two writes are one. The grid is the same
  -- then, and with it the measured block.
  intro after ran
  obtain ⟨remeasured, final, admitted, filledRest, lastRest⟩ := (append_even_ok_iff evenRest).1 ran
  obtain rfl := (EStateM.Result.ok.inj (admitted.measures.symm.trans again)).2
  have left : 1 ≤ measured.span.column := (kept_of_remeasure admits.measures).2.1.2.1
  have corner : 1 ≤ grid.lastRow + 1 ∧ 1 ≤ measured.span.column := ⟨Nat.succ_pos _, left⟩
  have wroteRest : Grid.Written grid final
      ⟨grid.lastRow + 1, measured.span.column, rest.length, width⟩ rest :=
    Grid.written_of_write corner filledRest
  rw [down] at wroteRest
  obtain ⟨together, -, filledAll, wroteAll, -⟩ := append_of_admits even admits
  have same : together = final := (wroteFirst.below some wroteRest).unique wroteAll
  rw [same] at filledAll
  rw [remeasure_to_bottom, remeasure_to_bottom] at lastRest
  exact (append_even_ok_iff even).2 ⟨measured, final, admits, filledAll, lastRest⟩

def appendEach (rows : List Row) : Action Region Unit := rows.forM fun row => append [row]

theorem append_each_cons (head : Row) (rest : List Row) :
    appendEach (head :: rest) = append [head] >>= fun _ => appendEach rest :=
  Action.for_m_cons _ head rest

/-- Rows that a region admits are appended one after the other, with the same outcome as at once. -/
theorem append_each_of_admits (even : EvenRows region rows width) (filled : Filled rows)
    (admits : Admits region measured width) :
    ∃ after, append rows region = .ok () after ∧ appendEach rows region = .ok () after := by
  induction rows generalizing region measured with
  | nil => exact absurd rfl even.some
  | cons head rest induction =>
      obtain ⟨filledHead, filledRest⟩ := List.forall_mem_cons.1 filled
      by_cases last : rest = []
      · subst last
        obtain ⟨grid, cache, written, -, remeasured⟩ := append_of_admits even admits
        have ran := (append_even_ok_iff even).2 ⟨measured, grid, admits, written, remeasured⟩
        refine ⟨_, ran, ?_⟩
        rw [append_each_cons, Action.bind_of_ok ran]
        rfl
      · obtain ⟨between, next, single, evenRest, admitsNext, together⟩ :=
          append_step even last filledHead admits
        obtain ⟨after, ran, each⟩ := induction evenRest filledRest admitsNext
        refine ⟨after, together after ran, ?_⟩
        rw [append_each_cons, Action.bind_of_ok single]
        exact each

/-- Rows with content and of one width are appended one after the other with the same outcome as at
once, or they are refused in both ways. -/
theorem appends_in_turn (even : EvenRows region rows width) (filled : Filled rows) :
    (∃ after, append rows region = .ok () after ∧ appendEach rows region = .ok () after) ∨
      (∃ error stopped, append rows region = .error error stopped ∧
        stopped.sheet.grid = region.sheet.grid) ∧
      ∃ error stopped, appendEach rows region = .error error stopped ∧
        stopped.sheet.grid = region.sheet.grid := by
  by_cases admitted : ∃ measured, Admits region measured width
  · obtain ⟨measured, admits⟩ := admitted
    exact Or.inl (append_each_of_admits even filled admits)
  · have refused := not_exists.1 admitted
    right
    refine ⟨append_refused even refused, ?_⟩
    obtain ⟨head, rest, rfl⟩ := List.exists_cons_of_ne_nil even.some
    obtain ⟨error, stopped, failed, kept⟩ := append_refused even.single refused
    refine ⟨error, stopped, ?_, kept⟩
    rw [append_each_cons, Action.bind_of_error failed]

end GridStore.Region
