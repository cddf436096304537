import GridStore.Proofs.Insert
import GridStore.Proofs.Region.Tall

/-!
Appending rows: which rows a region accepts, and why it refuses all others.

Rows are accepted exactly if there are some and all of them have one width, which is positive and
not larger than that of the region. Nobody checks that it is positive: an address takes a width of
zero for one that is left out, and the grid refuses the block that it makes of it.
-/

set_option autoImplicit false

namespace GridStore

namespace Region

/-- There are some rows, all of one positive width that the region has room for. -/
def Fitting (span : Span) (rows : List Row) : Prop :=
  rows ≠ [] ∧ ∃ width, 1 ≤ width ∧ width ≤ span.columns ∧ ∀ row ∈ rows, row.length = width

/-- How rows do not fit a region, and what is said about it. -/
inductive Misfit (grid : Grid) (span : Span) : List Row → Error → Prop
  | noRows : Misfit grid span [] (.append .noRows)
  | tooWide {first : Row} {rest : List Row} (wide : span.columns < first.length) :
      Misfit grid span (first :: rest) (.append (.tooWide span.columns first.length))
  | uneven {first : Row} {rest : List Row} (narrow : first.length ≤ span.columns)
      (differs : ∃ row ∈ rest, row.length ≠ first.length) :
      Misfit grid span (first :: rest) (.append .unevenRows)
  | noCells {first : Row} {rest : List Row} (empty : ∀ row ∈ first :: rest, row.length = 0) :
      Misfit grid span (first :: rest)
        (.grid (.wrongShape ⟨grid.lastRow + 1, span.column, (first :: rest).length, 1⟩))

theorem fitting_or_misfit (grid : Grid) (span : Span) (rows : List Row) :
    Fitting span rows ∨ ∃ error, Misfit grid span rows error := by
  cases rows with
  | nil => exact Or.inr ⟨_, .noRows⟩
  | cons first rest =>
      by_cases wide : span.columns < first.length
      · exact Or.inr ⟨_, .tooWide wide⟩
      · by_cases differs : ∃ row ∈ rest, row.length ≠ first.length
        · exact Or.inr ⟨_, .uneven (Nat.le_of_not_lt wide) differs⟩
        · have even : ∀ row ∈ first :: rest, row.length = first.length := by
            refine List.forall_mem_cons.2 ⟨rfl, fun row member => ?_⟩
            exact Decidable.byContradiction fun other => differs ⟨row, member, other⟩
          by_cases empty : first.length = 0
          · exact Or.inr ⟨_, .noCells fun row member => (even row member).trans empty⟩
          · exact Or.inl ⟨List.cons_ne_nil _ _, first.length, Nat.pos_of_ne_zero empty,
              Nat.le_of_not_lt wide, even⟩

variable {region measured : Region}

/-- What happens to rows once the region has been measured. -/
theorem append_after_measuring (head : Row) (rest : List Row)
    (first : remeasure region = .ok () measured) :
    append (head :: rest) region =
      if measured.span.columns < head.length then
        .error (.append (.tooWide measured.span.columns head.length)) measured
      else if (head :: rest).any fun row => row.length != head.length then
        .error (.append .unevenRows) measured
      else (onSheet (Sheet.range (appendAddress measured.span.column (head :: rest).length
          head.length)) >>= fun target =>
        onSheet (Sheet.setValues target (head :: rest)) >>= fun _ => remeasure) measured := by
  rw [append, Action.bind_of_ok first, Action.bind_of_ok Action.get_apply]
  by_cases wide : measured.span.columns < head.length
  · rw [if_pos wide, if_pos wide]
    exact Action.bind_of_error (Action.throw_apply _)
  · rw [if_neg wide, if_neg wide]
    by_cases uneven : ((head :: rest).any fun row => row.length != head.length) = true
    · rw [if_pos uneven, if_pos uneven]
      exact Action.bind_of_error (Action.throw_apply _)
    · rw [if_neg uneven, if_neg uneven]

theorem uneven_iff {head : Row} {rest : List Row} :
    ((head :: rest).any fun row => row.length != head.length) = true ↔
      ∃ row ∈ rest, row.length ≠ head.length := by
  simp

/-- The block below all content that an address for new rows names. A width of zero is taken for one
that is left out. -/
theorem resolve_new_rows {grid : Grid} {cache : MetricCache} (faithful : cache.IsFaithful grid)
    (exact : grid.lastRow < exactBound) {column rows columns : Nat}
    (columnExact : 1 ≤ column ∧ column ≤ exactBound) (rowsExact : 1 ≤ rows ∧ rows ≤ exactBound)
    (columnsExact : columns ≤ exactBound) :
    ∃ cache', Address.resolve grid (appendAddress column rows columns) cache =
      .ok ⟨grid.lastRow + 1, column, rows, max 1 columns⟩ cache' := by
  have given : Address.resolve grid (appendAddress column rows columns) =
      Address.resolve grid (appendAddress column rows (max 1 columns)) := by
    have one : max 1 (max 1 columns) = max 1 columns := by omega
    have present := Address.is_present_iff.2 columnExact.1
    rw [appendAddress, appendAddress, Address.resolve_text_row (by decide) (by decide) present,
      Address.resolve_text_row (by decide) (by decide) present]
    have kind : ∀ value, (AddressToken.number value).kind = "number" := fun _ => rfl
    simp only [Address.resolveTokens, Address.or_one_of_count, one, Address.signature,
      Address.tokens, List.map_cons, kind]
  rw [given]
  exact resolve_below_content faithful exact columnExact rowsExact
    ⟨Nat.le_max_left _ _, Nat.max_le.2 ⟨by decide, columnsExact⟩⟩

/-- A block that can be addressed, with exact numbers, begins within the rows of an exact grid. -/
structure Placed (region : Region) : Prop where
  exact : region.sheet.grid.IsExact
  validated : region.span.validated = .ok region.span
  inside : region.span.row ≤ region.sheet.grid.maxRows
  column : region.span.column < exactBound
  columns : region.span.columns < exactBound

namespace Placed

theorem addressable (placed : region.Placed) : region.span.Addressable :=
  (Span.validated_ok_iff.1 placed.validated).1

theorem measures (placed : region.Placed) :
    ∃ cache, cache.IsFaithful region.sheet.grid ∧ remeasure region =
      .ok () ⟨⟨region.sheet.grid, cache⟩, toBottom region.sheet.grid region.span⟩ := by
  obtain ⟨⟨top, left, -, wide⟩, -⟩ := placed.addressable
  exact remeasure_inside region.sheet.cache placed.exact ⟨top, placed.inside⟩
    ⟨left, Nat.le_of_lt placed.column⟩ ⟨wide, Nat.le_of_lt placed.columns⟩

theorem target (placed : region.Placed) {cache : MetricCache}
    (faithful : cache.IsFaithful region.sheet.grid) {count width : Nat}
    (some : 1 ≤ count) (few : count < exactBound) (narrow : width ≤ region.span.columns) :
    ∃ cache', Address.resolve region.sheet.grid (appendAddress region.span.column count width)
        cache =
      .ok ⟨region.sheet.grid.lastRow + 1, region.span.column, count, max 1 width⟩ cache' :=
  resolve_new_rows faithful
    (Nat.lt_of_le_of_lt Grid.last_row_le_max_rows placed.exact.1)
    ⟨placed.addressable.1.2.1, Nat.le_of_lt placed.column⟩ ⟨some, Nat.le_of_lt few⟩
    (Nat.le_trans narrow (Nat.le_of_lt placed.columns))

/-- However many rows have been appended, the region is measured again without fail. -/
theorem measures_again (placed : region.Placed) {grid : Grid}
    (grown : region.sheet.grid.maxRows ≤ grid.maxRows) (tall : grid.maxRows ≤ 2 * exactBound) :
    ∃ after, remeasure ⟨⟨grid, .empty⟩, toBottom region.sheet.grid region.span⟩ =
      .ok () after := by
  obtain ⟨⟨top, left, -, wide⟩, -, right⟩ := placed.addressable
  have exactRows : region.sheet.grid.maxRows < exactBound := placed.exact.1
  obtain ⟨measured, cache, resolved⟩ := resolve_to_tall_bottom (MetricCache.faithful_empty grid)
    tall ⟨top, Nat.le_trans placed.inside grown⟩
    (Nat.le_of_lt (Nat.lt_of_le_of_lt placed.inside exactRows))
    (Address.kept_of_exact left (Nat.le_of_lt placed.column))
    (Address.kept_of_exact wide (Nat.le_of_lt placed.columns)) ⟨left, wide⟩ right
  exact ⟨_, remeasure_ok_iff.2 ⟨measured, cache, resolved, rfl⟩⟩

end Placed

theorem append_of_misfit (placed : region.Placed) {rows : List Row} {error : Error}
    (few : rows.length < exactBound)
    (misfit : Misfit region.sheet.grid region.span rows error) :
    ∃ stopped, append rows region = .error error stopped ∧
      stopped.sheet.grid = region.sheet.grid := by
  obtain ⟨cache, faithful, first⟩ := placed.measures
  cases misfit with
  | noRows => exact ⟨region, rfl, rfl⟩
  | tooWide wide => exact ⟨_, (append_after_measuring _ _ first).trans (if_pos wide), rfl⟩
  | @uneven head rest narrow differs =>
      exact ⟨_, (append_after_measuring head rest first).trans
        ((if_neg (Nat.not_lt.2 narrow)).trans (if_pos (uneven_iff.2 differs))), rfl⟩
  | @noCells head rest empty =>
      obtain ⟨none, others⟩ := List.forall_mem_cons.1 empty
      have narrow : ¬region.span.columns < head.length := by omega
      have even : ¬((head :: rest).any fun row => row.length != head.length) = true := by
        rw [uneven_iff]
        rintro ⟨row, member, differs⟩
        exact differs ((others row member).trans none.symm)
      obtain ⟨cache', resolved⟩ := placed.target faithful (Nat.succ_pos _) few
        (Nat.le_of_not_lt narrow)
      have aimed : onSheet (Sheet.range (appendAddress region.span.column (head :: rest).length
          head.length)) ⟨⟨region.sheet.grid, cache⟩, toBottom region.sheet.grid region.span⟩ = _ :=
        on_sheet_ok (range_ok_iff.2 ⟨cache', resolved, rfl⟩)
      -- The block has one column, and the rows have none.
      have refused : region.sheet.grid.write ⟨region.sheet.grid.lastRow + 1, region.span.column,
          (head :: rest).length, max 1 head.length⟩ (head :: rest) = .error (.wrongShape _) :=
        if_neg (by simp [Grid.hasShape, none])
      have goes := (append_after_measuring head rest first).trans
        ((if_neg narrow).trans (if_neg even))
      have ended := goes.trans ((Action.bind_of_ok aimed).trans
        (Action.bind_of_error (change_refused refused)))
      rw [none] at ended
      exact ⟨_, ended, rfl⟩

theorem append_of_fitting (placed : region.Placed) {rows : List Row}
    (few : rows.length < exactBound) (fitting : Fitting region.span rows) :
    ∃ after, append rows region = .ok () after := by
  obtain ⟨nonempty, width, positive, narrow, widths⟩ := fitting
  obtain ⟨cache, faithful, first⟩ := placed.measures
  have content := region.sheet.grid.last_row_le_max_rows
  have exactRows : region.sheet.grid.maxRows < exactBound := placed.exact.1
  obtain ⟨grid, wrote, appends⟩ := write_below_content first faithful
    (Nat.lt_of_le_of_lt content exactRows)
    ⟨placed.addressable.1.2.1, Nat.le_of_lt placed.column⟩ nonempty (Nat.le_of_lt few)
    ⟨positive, Nat.le_trans narrow (Nat.le_of_lt placed.columns)⟩ narrow widths
  have tall : grid.maxRows ≤ 2 * exactBound := by
    rw [wrote.maxRows, Span.lastRow]
    simp only
    omega
  have grown : region.sheet.grid.maxRows ≤ grid.maxRows := by
    rw [wrote.maxRows]
    exact Nat.le_max_left _ _
  obtain ⟨after, last⟩ := placed.measures_again grown tall
  exact ⟨after, appends after last⟩

theorem append_ok_iff_fitting (placed : region.Placed) {rows : List Row}
    (few : rows.length < exactBound) :
    (∃ after, append rows region = .ok () after) ↔ Fitting region.span rows := by
  constructor
  · rintro ⟨after, ran⟩
    rcases fitting_or_misfit region.sheet.grid region.span rows with fitting | ⟨error, misfit⟩
    · exact fitting
    · obtain ⟨stopped, failed, -⟩ := append_of_misfit placed few misfit
      rw [failed] at ran
      cases ran
  · exact append_of_fitting placed few

theorem misfit_of_failed_append (placed : region.Placed) {rows : List Row} {error : Error}
    {stopped : Region} (few : rows.length < exactBound)
    (failed : append rows region = .error error stopped) :
    Misfit region.sheet.grid region.span rows error ∧
      stopped.sheet.grid = region.sheet.grid := by
  rcases fitting_or_misfit region.sheet.grid region.span rows with fitting | ⟨other, misfit⟩
  · obtain ⟨after, ran⟩ := append_of_fitting placed few fitting
    rw [ran] at failed
    cases failed
  · obtain ⟨final, refused, kept⟩ := append_of_misfit placed few misfit
    rw [refused] at failed
    cases failed
    exact ⟨misfit, kept⟩

theorem append_entities_apply (mapper : EntityMapper) {entities : List Entity}
    (nonempty : entities ≠ []) (region : Region) :
    appendEntities mapper entities region = append (mapper.toRows entities) region := by
  rw [appendEntities, List.isEmpty_eq_false_iff.2 nonempty]
  rfl

theorem to_rows_not_empty (mapper : EntityMapper) {entities : List Entity}
    (nonempty : entities ≠ []) : mapper.toRows entities ≠ [] := by
  intro nothing
  have length := mapper.length_to_rows entities
  rw [nothing] at length
  exact nonempty (List.length_eq_zero_iff.1 length.symm)

theorem fitting_to_rows_iff (mapper : EntityMapper) {entities : List Entity}
    (nonempty : entities ≠ []) {span : Span} (size : span.columns ≤ Size.largest) :
    Fitting span (mapper.toRows entities) ↔
      ∃ index, mapper.rows.map.maxIndex? = some index ∧ index < span.columns := by
  have widths : ∀ row ∈ mapper.toRows entities, row.length = mapper.rows.map.width :=
    fun row member => EntityMapper.width_of_to_rows member
  have some := to_rows_not_empty mapper nonempty
  obtain ⟨row, member⟩ := List.exists_mem_of_ne_nil _ some
  constructor
  · rintro ⟨-, width, positive, narrow, even⟩
    have same : mapper.rows.map.width = width := (widths row member).symm.trans (even row member)
    cases last : mapper.rows.map.maxIndex? with
    | none =>
        rw [ColumnMap.width, last] at same
        simp only at same
        omega
    | some index =>
        rw [ColumnMap.width_of_max last] at same
        have below := Size.next_pos_iff.1 (same ▸ positive)
        rw [Size.next_of_lt below] at same
        exact ⟨index, rfl, by omega⟩
  · rintro ⟨index, last, inside⟩
    have width : mapper.rows.map.width = index + 1 := by
      rw [ColumnMap.width_of_max last, Size.next_of_lt (Nat.lt_of_lt_of_le inside size)]
    exact ⟨some, index + 1, Nat.succ_pos _, inside, width ▸ widths⟩

/-- Rows of one width are refused for their width only. -/
theorem misfit_of_even {grid : Grid} {span : Span} {rows : List Row} {error : Error} {width : Nat}
    (nonempty : rows ≠ []) (even : ∀ row ∈ rows, row.length = width)
    (misfit : Misfit grid span rows error) :
    error ≠ .append .noRows ∧ error ≠ .append .unevenRows := by
  cases misfit with
  | noRows => exact absurd rfl nonempty
  | tooWide wide => exact ⟨by simp, by simp⟩
  | uneven narrow differs =>
      obtain ⟨row, member, differs⟩ := differs
      obtain ⟨first, others⟩ := List.forall_mem_cons.1 even
      exact absurd ((others row member).trans first.symm) differs
  | noCells empty => exact ⟨by simp, by simp⟩

/-- A region accepts exactly the rows that fit it, and it refuses all others for what is wrong with
them, without touching the grid. The rows of entities are never uneven: they fit exactly if the map
has fields and its last position lies within the region. -/
theorem appended_iff_fitting {region : Region} (placed : region.Placed) :
    (∀ rows : List Row, rows.length < exactBound →
      ((∃ after, append rows region = .ok () after) ↔ Fitting region.span rows) ∧
      (∀ error, (∃ stopped, append rows region = .error error stopped) ↔
        Misfit region.sheet.grid region.span rows error) ∧
      ∀ error stopped, append rows region = .error error stopped →
        stopped.sheet.grid = region.sheet.grid) ∧
    ∀ (mapper : EntityMapper) (entities : List Entity), entities ≠ [] →
      entities.length < exactBound →
      ((∃ after, appendEntities mapper entities region = .ok () after) ↔
        ∃ index, mapper.rows.map.maxIndex? = some index ∧ index < region.span.columns) ∧
      ∀ error stopped, appendEntities mapper entities region = .error error stopped →
        (error ≠ .append .noRows ∧ error ≠ .append .unevenRows) ∧
          stopped.sheet.grid = region.sheet.grid := by
  constructor
  · intro rows few
    refine ⟨append_ok_iff_fitting placed few, fun error => ⟨?_, fun misfit => ?_⟩,
      fun error stopped failed => (misfit_of_failed_append placed few failed).2⟩
    · rintro ⟨stopped, failed⟩
      exact (misfit_of_failed_append placed few failed).1
    · obtain ⟨stopped, failed, -⟩ := append_of_misfit placed few misfit
      exact ⟨stopped, failed⟩
  · intro mapper entities nonempty few
    rw [← mapper.length_to_rows entities] at few
    rw [append_entities_apply mapper nonempty]
    have right := placed.addressable.2.2
    refine ⟨(append_ok_iff_fitting placed few).trans
      (fitting_to_rows_iff mapper nonempty (by omega)), ?_⟩
    intro error stopped failed
    obtain ⟨misfit, kept⟩ := misfit_of_failed_append placed few failed
    exact ⟨misfit_of_even (to_rows_not_empty mapper nonempty)
      (fun row member => EntityMapper.width_of_to_rows member) misfit, kept⟩

def pairs : Region := ⟨⟨.blank "data" 2 2, .empty⟩, ⟨1, 1, 2, 2⟩⟩

theorem pairs_placed : pairs.Placed :=
  ⟨⟨by decide, by decide⟩, by decide, by decide, by decide, by decide⟩

/-- A pair and an entity with two fields are accepted. Rows without cells are refused, for all that
they are even and not too wide. -/
theorem pairs_accept_pairs :
    pairs.Placed ∧
      (∃ after, append [[.string "Ann", .string "31"]] pairs = .ok () after) ∧
      (∃ stopped, append [[], []] pairs = .error (.grid (.wrongShape ⟨1, 1, 2, 1⟩)) stopped) ∧
      ∃ after, appendEntities ⟨⟨⟨[("name", 0), ("age", 1)]⟩, []⟩, []⟩ [.ofList []] pairs =
        .ok () after := by
  obtain ⟨plain, mapped⟩ := appended_iff_fitting pairs_placed
  refine ⟨pairs_placed, ?_, ?_, ?_⟩
  · exact (plain _ (by decide)).1.2
      ⟨by simp, 2, by decide, by decide, List.forall_mem_singleton.2 rfl⟩
  · exact ((plain _ (by decide)).2.1 _).2 (.noCells (by simp))
  · exact (mapped _ _ (by simp) (by decide)).1.2 ⟨1, rfl, by decide⟩

end Region

end GridStore
