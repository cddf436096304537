import GridStore.Proofs.Delete
import GridStore.Proofs.Insert
import GridStore.Proofs.Region.Anchored

/-!
What a deletion leaves behind. It looks through the rows of the region as it was measured last, so
that of the rows down to the bottom of the sheet it misses those that have come below the region
since, as when another repository on the same sheet has put them there.
-/

set_option autoImplicit false

namespace GridStore

def Grid.IsCleared (grid : Grid) (span : Span) (row : Nat) : Prop :=
  ∀ column, span.column ≤ column → column ≤ span.lastColumn → grid.cell? row column = some .empty

namespace Repository

/-- A filter accepts what a row of a grid reads as, across the columns of a block. -/
def Accepts (repository : Repository) (filter : Filter) (span : Span) (grid : Grid) (row : Nat) :
    Prop :=
  filter.accepts (repository.mapper.load (grid.rowFrom span.column span.columns row)
    (row - span.row)).1 = true

/-- Of the rows from the first one of a block down to the bottom of the grid, those that a filter
accepts have been cleared. -/
def LeavesNoMatch (repository : Repository) (filter : Filter) (span : Span) (before after : Grid) :
    Prop :=
  ∀ row, span.row ≤ row → row ≤ before.maxRows → repository.Accepts filter span before row →
    after.IsCleared span row

variable {repository : Repository} {filter : Filter} {region after : Region} {before grid : Grid}
  {span : Span} {deletion : Deletion}

theorem readable_of_delete {firstOnly : Bool}
    (deletes : repository.delete filter firstOnly region = .ok deletion after) :
    region.sheet.grid.checkBounds region.span = .ok () := by
  obtain ⟨scanned, middle, scans, -⟩ := Action.bind_ok_iff.1 deletes
  obtain ⟨rows, shown, values, -⟩ := Action.bind_ok_iff.1 scans
  exact (Region.values_ok_iff.1 values).1

/-- A row that a filter accepts is among the deleted ones exactly if it lies in the block. -/
theorem matching_of_accepted (steady : repository.mapper.IsSteady)
    (readable : before.checkBounds span = .ok ()) {index : Nat}
    (accepted : repository.Accepts filter span before (span.row + index)) :
    index ∈ matching repository.mapper filter (before.block span) ↔ index < span.rows := by
  rw [Accepts, Nat.add_sub_cancel_left, steady _ index] at accepted
  rw [mem_matching_iff]
  constructor
  · rintro ⟨row, listed, -⟩
    exact ((Grid.block_row_iff readable).1 listed).1
  · intro below
    exact ⟨_, (Grid.block_row_iff readable).2 ⟨below, rfl⟩, accepted⟩

theorem cleared_iff (steady : repository.mapper.IsSteady)
    (readable : before.checkBounds span = .ok ())
    (deleted : Deleted before grid span (matching repository.mapper filter (before.block span)))
    {row : Nat} (inside : span.row ≤ row)
    (accepted : repository.Accepts filter span before row) :
    grid.IsCleared span row ↔ row ≤ span.lastRow ∨ before.IsCleared span row := by
  obtain ⟨index, rfl⟩ := Nat.exists_eq_add_of_le inside
  have listed := matching_of_accepted steady readable accepted
  obtain ⟨⟨-, -, rows, -⟩, -⟩ := Grid.inside_of_check readable
  by_cases below : index < span.rows
  · have high : span.row + index ≤ span.lastRow := by
      rw [Span.lastRow]
      omega
    exact iff_of_true (deleted.blanked index (listed.2 below)) (Or.inl high)
  · have low : ¬span.row + index ≤ span.lastRow := by
      rw [Span.lastRow]
      omega
    have kept : ∀ column, grid.cell? (span.row + index) column =
        before.cell? (span.row + index) column := by
      intro column
      refine deleted.kept _ column fun other member same => ?_
      obtain rfl := Nat.add_left_cancel same
      exact absurd (listed.1 member) below
    simp only [Grid.IsCleared, kept, low, false_or]

theorem leaves_no_match_iff (steady : repository.mapper.IsSteady)
    (exact : region.sheet.grid.IsExact)
    (deletes : repository.findAndDelete filter region = .ok deletion after) :
    repository.LeavesNoMatch filter region.span region.sheet.grid after.sheet.grid ↔
      ∀ row, region.span.lastRow < row → row ≤ region.sheet.grid.maxRows →
        repository.Accepts filter region.span region.sheet.grid row →
          region.sheet.grid.IsCleared region.span row := by
  have readable := readable_of_delete deletes
  obtain ⟨found, final, ran, indexes, deleted⟩ := delete_of_steady steady filter exact readable
  rw [deletes] at ran
  obtain ⟨rfl, rfl⟩ := EStateM.Result.ok.inj ran
  rw [indexes] at deleted
  obtain ⟨⟨-, -, rows, -⟩, -⟩ := Grid.inside_of_check readable
  constructor
  · intro none row low allocated accepted
    have inside : region.span.row ≤ row := by
      rw [Span.lastRow] at low
      omega
    have cleared := none row inside allocated accepted
    rcases (cleared_iff steady readable deleted inside accepted).1 cleared with high | blank
    · exact absurd high (Nat.not_le.2 low)
    · exact blank
  · intro blank row inside allocated accepted
    apply (cleared_iff steady readable deleted inside accepted).2
    by_cases high : row ≤ region.span.lastRow
    · exact Or.inl high
    · exact Or.inr (blank row (Nat.lt_of_not_le high) allocated accepted)

/-- Whatever repositories have been used before and in whichever order, a deletion that succeeds
leaves no match behind exactly if no row with content below the region matches, and so none at all
if the region reaches the bottom of the sheet. -/
theorem no_match_left_iff {source : DataSource} (reachable : source.Reachable)
    (exact : ∀ grid ∈ source.workbook.sheets, grid.IsExact) {selector : Selector}
    {final : DataSource}
    (deletes : DataSource.run selector (fun repository => repository.findAndDelete filter) source =
      .ok deletion final) :
    ∃ connected place binding region after,
      source.Access selector connected place binding region ∧
      final = connected.putRegion place binding after ∧
      (binding.repository.LeavesNoMatch filter region.span region.sheet.grid after.sheet.grid ↔
        ∀ row, region.span.lastRow < row → row ≤ region.sheet.grid.maxRows →
          binding.repository.Accepts filter region.span region.sheet.grid row →
            region.sheet.grid.IsCleared region.span row) ∧
      (region.AtBottom →
        binding.repository.LeavesNoMatch filter region.span region.sheet.grid
          after.sheet.grid) := by
  obtain ⟨connected, place, binding, region, after, access, served, rfl⟩ :=
    DataSource.run_ok_iff.1 deletes
  have steady := DataSource.steady_of_access reachable access
  have exactGrid := exact _ (List.mem_of_getElem? (DataSource.grid_of_access access))
  have left := leaves_no_match_iff steady exactGrid served
  refine ⟨connected, place, binding, region, after, access, rfl, left, fun bottom => ?_⟩
  refine left.2 fun row low allocated => ?_
  rw [bottom] at low
  exact absurd allocated (Nat.not_le.2 low)

section Shared

/-! Two people on a sheet that one repository has opened by its name and another by its place. -/

def firstPeople : Binding := peopleBinding ⟨1, 1, 2, 1⟩

def secondPeople : Binding := { firstPeople with selector := .position 0 }

def sharedPeople : DataSource where
  workbook := twoPeople.workbook
  schemas := [peopleSchema ⟨1, 1, 2, 1⟩,
    { peopleSchema ⟨1, 1, 2, 1⟩ with selector := .position 0 }]
  bindings := [firstPeople, secondPeople]

theorem shared_people_reachable : sharedPeople.Reachable :=
  ⟨sharedPeople.workbook,
    { entities := [peopleOptions ⟨1, 1, 2, 1⟩,
        { peopleOptions ⟨1, 1, 2, 1⟩ with selector := some (.position 0) }] },
    ⟨sharedPeople.workbook, sharedPeople.schemas, []⟩,
    [.connect (.name "people"), .connect (.position 0)], rfl, rfl⟩

def twoNames : Grid := .ofRows "people" [[.string "Ann"], [.string "Bob"]]

theorem second_bob :
    ∃ inserted : Region, inserted.sheet.grid.IsExact ∧
      AddedBelow twoNames inserted.sheet.grid 2 1 1 [[.string "Bob"]] ∧
      (sharedPeople.putRegion 1 secondPeople inserted).Reachable := by
  have exact : twoNames.IsExact := ⟨by decide, by decide⟩
  obtain ⟨inserted, inserts, exactAfter⟩ :=
    insert_person_into "Bob" ⟨1, 1, 2, 1⟩ .empty exact rfl (by decide)
  have access : sharedPeople.Access (.position 0) sharedPeople 1 secondPeople
      ⟨⟨twoNames, .empty⟩, ⟨1, 1, 2, 1⟩⟩ := ⟨rfl, rfl, rfl⟩
  have ran : DataSource.run (.position 0) (Request.insert (person "Bob")).serve sharedPeople =
      .ok () (sharedPeople.putRegion 1 secondPeople inserted) :=
    (DataSource.run_of_access access).2 ⟨inserted, inserts, rfl⟩
  have reached := DataSource.reachable_after shared_people_reachable
    (.ask (.position 0) (.insert (person "Bob")))
  rw [DataSource.after, Event.run, DataSource.final_of_ok ran] at reached
  exact ⟨inserted, exactAfter, added_of_insert (List.cons_ne_nil _ _) exact exactAfter inserts,
    reached⟩

def bobs : Filter := Filter.empty.whereEquals "name" (.string "Bob")

def firstRegion (grid : Grid) : Region := ⟨⟨grid, .empty⟩, ⟨1, 1, 2, 1⟩⟩

theorem delete_known_bobs {inserted : Region} (exact : inserted.sheet.grid.IsExact)
    (added : AddedBelow twoNames inserted.sheet.grid 2 1 1 [[.string "Bob"]]) :
    ∃ deletion after, firstPeople.repository.findAndDelete bobs (firstRegion inserted.sheet.grid) =
        .ok deletion after ∧
      DataSource.run (.name "people") (fun repository => repository.findAndDelete bobs)
          (sharedPeople.putRegion 1 secondPeople inserted) =
        .ok deletion ((sharedPeople.putRegion 1 secondPeople inserted).putRegion 0 firstPeople
          after) := by
  have readable : (firstRegion inserted.sheet.grid).sheet.grid.checkBounds
      (firstRegion inserted.sheet.grid).span = .ok () := by
    show inserted.sheet.grid.checkBounds ⟨1, 1, 2, 1⟩ = .ok ()
    rw [Grid.check_bounds_ok_iff, added.maxRows, added.maxColumns]
    decide
  have steady : firstPeople.repository.mapper.IsSteady := fun row index => rfl
  have exactFirst : (firstRegion inserted.sheet.grid).sheet.grid.IsExact := exact
  obtain ⟨deletion, after, deletes, -⟩ := delete_of_steady steady bobs exactFirst readable
  have access : (sharedPeople.putRegion 1 secondPeople inserted).Access (.name "people")
      (sharedPeople.putRegion 1 secondPeople inserted) 0 firstPeople
      (firstRegion inserted.sheet.grid) := ⟨rfl, rfl, rfl⟩
  exact ⟨deletion, after, deletes, (DataSource.run_of_access access).2 ⟨after, deletes, rfl⟩⟩

theorem bobs_left_iff :
    ∃ source deletion final, source.Reachable ∧
      (∀ grid ∈ source.workbook.sheets, grid.IsExact) ∧
      DataSource.run (.name "people") (fun repository => repository.findAndDelete bobs) source =
        .ok deletion final ∧
      ∃ connected place binding region after,
        source.Access (.name "people") connected place binding region ∧
        final = connected.putRegion place binding after ∧
        (binding.repository.LeavesNoMatch bobs region.span region.sheet.grid after.sheet.grid ↔
          ∀ row, region.span.lastRow < row → row ≤ region.sheet.grid.maxRows →
            binding.repository.Accepts bobs region.span region.sheet.grid row →
              region.sheet.grid.IsCleared region.span row) := by
  obtain ⟨inserted, exact, added, reachable⟩ := second_bob
  obtain ⟨deletion, removed, -, ran⟩ := delete_known_bobs exact added
  have exactSheets : ∀ grid ∈ (sharedPeople.putRegion 1 secondPeople inserted).workbook.sheets,
      grid.IsExact := List.forall_mem_singleton.2 exact
  obtain ⟨connected, place, binding, region, after, access, put, left, -⟩ :=
    no_match_left_iff reachable exactSheets ran
  exact ⟨_, deletion, _, reachable, exactSheets, ran, connected, place, binding, region, after,
    access, put, left⟩

/-- The Bob of the second repository is still there after the first one has deleted all Bobs. -/
theorem second_bob_is_left :
    ∃ source deletion after grid, source.Reachable ∧
      source.bindings.map Binding.sheet = [0, 0] ∧
      source.Access (.name "people") source 0 firstPeople (firstRegion grid) ∧
      DataSource.run (.name "people") (fun repository => repository.findAndDelete bobs) source =
        .ok deletion (source.putRegion 0 firstPeople after) ∧
      ¬firstPeople.repository.LeavesNoMatch bobs ⟨1, 1, 2, 1⟩ grid after.sheet.grid := by
  obtain ⟨inserted, exact, added, reachable⟩ := second_bob
  obtain ⟨deletion, after, deletes, ran⟩ := delete_known_bobs exact added
  have steady : firstPeople.repository.mapper.IsSteady := fun row index => rfl
  have bob : inserted.sheet.grid.cell? 3 1 = some (.string "Bob") := added.holds 0 _ 0 _ rfl rfl
  have third : inserted.sheet.grid.rowFrom 1 1 3 = [.string "Bob"] := by
    show [(inserted.sheet.grid.cell? 3 1).getD .empty] = _
    rw [bob]
    rfl
  refine ⟨_, deletion, after, inserted.sheet.grid, reachable, rfl, ⟨rfl, rfl, rfl⟩, ran,
    fun none => ?_⟩
  have accepted : firstPeople.repository.Accepts bobs ⟨1, 1, 2, 1⟩ inserted.sheet.grid 3 := by
    rw [Accepts, third]
    rfl
  have bottom : 3 ≤ inserted.sheet.grid.maxRows := by
    rw [added.maxRows]
    decide
  have exactFirst : (firstRegion inserted.sheet.grid).sheet.grid.IsExact := exact
  have cleared : inserted.sheet.grid.IsCleared ⟨1, 1, 2, 1⟩ 3 :=
    (leaves_no_match_iff steady exactFirst deletes).1 none 3 (Nat.lt_succ_self 2) bottom accepted
  have blank := cleared 1 (Nat.le_refl 1) (Nat.le_refl 1)
  exact absurd (bob.symm.trans blank) (by decide)

end Shared

end Repository

end GridStore
