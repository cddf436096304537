import Mathlib.Data.List.Sort
import GridStore.Proofs.Canonical.Grid
import GridStore.Proofs.ClearRows
import GridStore.Proofs.DataSource.InTurn
import GridStore.Proofs.FirstMatch
import GridStore.Proofs.Leftover

/-!
Deleting one entity after another, until there is none left to delete, against deleting all of them
at once. Blanking the row of the first match leaves the other rows where they are, and a filter that
passes over blank rows then finds the remaining matches and nothing else.
-/

set_option autoImplicit false

namespace GridStore

/-- Repeating an action for as long as it deletes something: what its runs have reported, up to the
one that reports nothing, and the state in which that one ends. -/
inductive Exhausts {σ : Type} (action : Action σ Deletion) : σ → List Deletion → σ → Prop where
  | done {state final : σ} {deletion : Deletion} (ran : action state = .ok deletion final)
      (nothing : deletion.deleted = false) : Exhausts action state [] final
  | next {state between final : σ} {deletion : Deletion} {later : List Deletion}
      (ran : action state = .ok deletion between) (something : deletion.deleted = true)
      (rest : Exhausts action between later final) :
      Exhausts action state (deletion :: later) final

theorem Exhausts.unique {σ : Type} {action : Action σ Deletion} {state final last : σ}
    {steps others : List Deletion} (first : Exhausts action state steps final)
    (second : Exhausts action state others last) : others = steps ∧ last = final := by
  induction first generalizing others with
  | done ran nothing =>
      cases second with
      | done again _ =>
          cases ran.symm.trans again
          exact ⟨rfl, rfl⟩
      | next again something _ =>
          cases ran.symm.trans again
          cases nothing.symm.trans something
  | next ran something _ induction =>
      cases second with
      | done again nothing =>
          cases ran.symm.trans again
          cases nothing.symm.trans something
      | next again _ rest =>
          cases ran.symm.trans again
          obtain ⟨same, ended⟩ := induction rest
          exact ⟨congrArg _ same, ended⟩

namespace Repository

section Deleted

variable {before between after other : Grid} {span : Span} {indexes others : List Nat}

theorem Deleted.unique (first : Deleted before after span indexes)
    (second : Deleted before other span indexes) : other = after := by
  apply Grid.eq_of_cells (second.name.trans first.name.symm)
    (second.maxRows.trans first.maxRows.symm) (second.maxColumns.trans first.maxColumns.symm)
  intro row column
  by_cases inside : ∃ index ∈ indexes, row = span.row + index ∧
      span.column ≤ column ∧ column ≤ span.lastColumn
  · obtain ⟨index, member, rfl, left, right⟩ := inside
    rw [first.blanked index member column left right, second.blanked index member column left right]
  · have outside : ∀ index ∈ indexes, row = span.row + index →
        column < span.column ∨ span.lastColumn < column := by
      intro index member here
      by_contra within
      apply inside
      exact ⟨index, member, here, by omega⟩
    rw [first.kept row column outside, second.kept row column outside]

theorem Deleted.trans (first : Deleted before between span indexes)
    (second : Deleted between after span others) :
    Deleted before after span (indexes ++ others) where
  name := second.name.trans first.name
  maxRows := second.maxRows.trans first.maxRows
  maxColumns := second.maxColumns.trans first.maxColumns
  blanked index member column left right := by
    by_cases later : index ∈ others
    · exact second.blanked index later column left right
    · have earlier := (List.mem_append.1 member).resolve_right later
      rw [second.kept, first.blanked index earlier column left right]
      intro another listed same
      cases Nat.add_left_cancel same
      exact absurd listed later
  kept row column outside := by
    rw [second.kept, first.kept]
    · intro index member
      exact outside index (List.mem_append_left _ member)
    · intro index member
      exact outside index (List.mem_append_right _ member)

theorem Deleted.readable {block : Span} (deleted : Deleted before after span indexes) :
    after.checkBounds block = .ok () ↔ before.checkBounds block = .ok () := by
  rw [Grid.check_bounds_ok_iff, Grid.check_bounds_ok_iff, deleted.maxRows, deleted.maxColumns]

theorem row_of_deleted (deleted : Deleted before after span indexes) {index : Nat}
    (member : index ∈ indexes) :
    after.rowFrom span.column span.columns (span.row + index) = Grid.blankRow span.columns := by
  rw [Grid.rowFrom, Grid.blankRow, List.eq_replicate_iff, List.length_map, List.length_range]
  apply And.intro rfl
  intro cell listed
  obtain ⟨offset, inside, rfl⟩ := List.mem_map.1 listed
  have below := List.mem_range.1 inside
  rw [deleted.blanked index member (span.column + offset) (Nat.le_add_right _ _)]
  · rfl
  · rw [Span.lastColumn]
    omega

theorem row_beside_deleted (deleted : Deleted before after span indexes) {index : Nat}
    (spared : index ∉ indexes) :
    after.rowFrom span.column span.columns (span.row + index) =
      before.rowFrom span.column span.columns (span.row + index) := by
  rw [Grid.rowFrom, Grid.rowFrom]
  apply List.map_congr_left
  intro offset inside
  rw [deleted.kept]
  intro another member same
  cases Nat.add_left_cancel same
  exact absurd member spared

end Deleted

section Matching

variable {mapper : EntityMapper} {filter : Filter} {before after : Grid} {span : Span}
  {first : Nat} {indexes rest : List Nat}

theorem mem_matching_block_iff (readable : before.checkBounds span = .ok ()) {index : Nat} :
    index ∈ matching mapper filter (before.block span) ↔
      index < span.rows ∧ filter.accepts
        (mapper.load (before.rowFrom span.column span.columns (span.row + index)) 0).1 = true := by
  rw [mem_matching_iff]
  constructor
  · intro found
    obtain ⟨row, listed, accepted⟩ := found
    obtain ⟨below, rfl⟩ := (Grid.block_row_iff readable).1 listed
    exact ⟨below, accepted⟩
  · intro found
    exact ⟨_, (Grid.block_row_iff readable).2 ⟨found.1, rfl⟩, found.2⟩

/-- A filter that passes over blank rows matches what it has matched before, without the rows that
have been deleted. -/
theorem mem_matching_after_deletion (readable : before.checkBounds span = .ok ())
    (spares : filter.accepts (mapper.load (Grid.blankRow span.columns) 0).1 = false)
    (deleted : Deleted before after span indexes) {index : Nat} :
    index ∈ matching mapper filter (after.block span) ↔
      index ∈ matching mapper filter (before.block span) ∧ index ∉ indexes := by
  rw [mem_matching_block_iff (deleted.readable.2 readable), mem_matching_block_iff readable]
  by_cases member : index ∈ indexes
  · rw [row_of_deleted deleted member, spares]
    simp [member]
  · rw [row_beside_deleted deleted member]
    simp [member]

/-- Once the first match has been deleted, the others are left. -/
theorem matching_after_first (readable : before.checkBounds span = .ok ())
    (spares : filter.accepts (mapper.load (Grid.blankRow span.columns) 0).1 = false)
    (deleted : Deleted before after span [first])
    (matched : matching mapper filter (before.block span) = first :: rest) :
    matching mapper filter (after.block span) = rest := by
  have ascends := matching_ascends mapper filter (before.block span)
  rw [matched, List.pairwise_cons] at ascends
  apply (matching_ascends mapper filter (after.block span)).eq_of_mem_iff ascends.2
  intro index
  rw [mem_matching_after_deletion readable spares deleted, matched, List.mem_cons,
    List.mem_singleton]
  constructor
  · intro found
    exact found.1.resolve_left found.2
  · intro member
    have later := ascends.1 index member
    exact ⟨Or.inr member, by omega⟩

end Matching

end Repository

namespace Region

variable {region after other : Region} {span : Span}

/-- The region can be read and reaches the bottom of its grid, whose extent numbers keep
exactly. -/
structure IsSettled (region : Region) : Prop where
  exact : region.sheet.grid.IsExact
  readable : region.sheet.grid.checkBounds region.span = .ok ()
  bottom : region.AtBottom

theorem to_bottom_of_bottom {grid : Grid} (readable : grid.checkBounds span = .ok ())
    (bottom : span.lastRow = grid.maxRows) : toBottom grid span = span := by
  obtain ⟨⟨row, -, rows, -⟩, -⟩ := Grid.inside_of_check readable
  rw [Span.lastRow] at bottom
  have height : grid.maxRows - (span.row - 1) = span.rows := by omega
  rw [toBottom, height]

/-- Clearing rows of a settled region ends with measuring its block on what has become of the
grid. -/
theorem measured_of_clear_rows {rows : List Nat} (settled : region.IsSettled) (nonempty : rows ≠ [])
    (cleared : clearRows rows region = .ok () after) :
    remeasure ⟨⟨after.sheet.grid, .empty⟩, region.span⟩ = .ok () after := by
  obtain ⟨measured, addresses, aimed, grid, first, listed, -, last⟩ :=
    (clear_rows_ok_iff nonempty).1 cleared
  obtain ⟨cache, -, again⟩ := remeasure_readable region.sheet.cache settled.exact settled.readable
  obtain rfl := (EStateM.Result.ok.inj (first.symm.trans again)).2
  obtain ⟨blocks, -, -, sameSpan, -⟩ := blocks_of_addresses listed
  have sameGrid : after.sheet.grid = grid := grid_of_remeasure last
  rw [sameSpan, ← sameGrid, to_bottom_of_bottom settled.readable settled.bottom] at last
  exact last

end Region

namespace Repository

variable {repository : Repository} {filter : Filter} {region between after other : Region}
  {indexes others : List Nat}

structure Removed (before after : Region) (indexes : List Nat) : Prop where
  grid : Deleted before.sheet.grid after.sheet.grid before.span indexes
  measured : Region.remeasure ⟨⟨after.sheet.grid, .empty⟩, before.span⟩ = .ok () after

theorem Removed.unique (first : Removed region after indexes)
    (second : Removed region other indexes) : other = after := by
  have measured := second.measured
  rw [first.grid.unique second.grid] at measured
  cases first.measured.symm.trans measured
  rfl

theorem Removed.settled (removed : Removed region after indexes) (settled : region.IsSettled) :
    after.span = region.span ∧ after.IsSettled := by
  have exact : after.sheet.grid.IsExact := by
    rw [Grid.IsExact, removed.grid.maxRows, removed.grid.maxColumns]
    exact settled.exact
  have readable := removed.grid.readable.2 settled.readable
  have bottom : region.span.lastRow = after.sheet.grid.maxRows :=
    settled.bottom.trans removed.grid.maxRows.symm
  obtain ⟨cache, -, measured⟩ := Region.remeasure_readable .empty exact readable
  rw [Region.to_bottom_of_bottom readable bottom] at measured
  have same := (EStateM.Result.ok.inj (removed.measured.symm.trans measured)).2
  have span : after.span = region.span := by rw [same]
  refine ⟨span, exact, ?_, ?_⟩
  · rw [span]
    exact readable
  · rw [Region.AtBottom, span]
    exact bottom

theorem Removed.trans (first : Removed region between indexes)
    (second : Removed between after others) (settled : region.IsSettled) :
    Removed region after (indexes ++ others) := by
  obtain ⟨grid, measured⟩ := second
  rw [(first.settled settled).1] at grid measured
  exact ⟨first.grid.trans grid, measured⟩

theorem removing_settled (settled : region.IsSettled) (nonempty : indexes ≠ [])
    (inside : ∀ index ∈ indexes, index < region.span.rows) :
    ∃ after, removing indexes region = .ok ⟨indexes⟩ after ∧ Removed region after indexes := by
  obtain ⟨after, cleared, deleted⟩ :=
    clear_entities_inside settled.exact settled.readable inside
  have measured := Region.measured_of_clear_rows settled (by simpa using nonempty) cleared
  refine ⟨after, ?_, deleted, measured⟩
  rw [removing, Action.bind_of_ok cleared]
  rfl

def found (repository : Repository) (filter : Filter) (region : Region) : List Nat :=
  matching repository.mapper filter (region.sheet.grid.block region.span)

theorem reported_of_settled (steady : repository.mapper.IsSteady) (settled : region.IsSettled) :
    repository.reported filter region = .ok (repository.found filter region) region := by
  have reports := reported_apply repository filter region
  rw [Grid.read_ok_iff.2 ⟨settled.readable, rfl⟩] at reports
  rw [reports]
  dsimp only
  rw [EntityMapper.seen_of_steady steady, List.filter_map, List.map_map]
  rfl

theorem find_and_delete_settled (steady : repository.mapper.IsSteady) (filter : Filter)
    (settled : region.IsSettled) :
    repository.findAndDelete filter region = removing (repository.found filter region) region := by
  rw [find_and_delete_of_reported, Action.bind_of_ok (reported_of_settled steady settled)]

theorem delete_one_settled (steady : repository.mapper.IsSteady) (filter : Filter)
    (settled : region.IsSettled) :
    repository.deleteOne filter region =
      removing ((repository.found filter region).take 1) region := by
  rw [delete_one_of_reported, Action.bind_of_ok (reported_of_settled steady settled)]

theorem found_inside (repository : Repository) (filter : Filter) (settled : region.IsSettled) :
    ∀ index ∈ repository.found filter region, index < region.span.rows := by
  intro index member
  exact ((mem_matching_block_iff settled.readable).1 member).1

/-- The filter passes over a blank row of the region. -/
def SparesBlank (repository : Repository) (filter : Filter) (region : Region) : Prop :=
  filter.accepts (repository.mapper.load (Grid.blankRow region.span.columns) 0).1 = false

/-- Deleting one entity of a settled region deletes the first match, if there is one, and leaves
the others to be found. -/
theorem delete_one_step (steady : repository.mapper.IsSteady) (settled : region.IsSettled)
    (spares : repository.SparesBlank filter region) {first : Nat} {rest : List Nat}
    (matched : repository.found filter region = first :: rest) :
    ∃ between, repository.deleteOne filter region = .ok ⟨[first]⟩ between ∧
      Removed region between [first] ∧ repository.found filter between = rest := by
  have inside := found_inside repository filter settled
  rw [matched, List.forall_mem_cons] at inside
  have only : ∀ index ∈ [first], index < region.span.rows := by simpa using inside.1
  obtain ⟨between, removes, removed⟩ := removing_settled settled (List.cons_ne_nil _ _) only
  refine ⟨between, ?_, removed, ?_⟩
  · rw [delete_one_settled steady filter settled, matched]
    exact removes
  · rw [found, (removed.settled settled).1]
    exact matching_after_first settled.readable spares removed.grid matched

/-- Deleting everything comes to deleting the first match, and then everything else. -/
theorem find_and_delete_step (steady : repository.mapper.IsSteady) (settled : region.IsSettled)
    {first : Nat} {rest : List Nat} (matched : repository.found filter region = first :: rest)
    (removed : Removed region between [first]) (left : repository.found filter between = rest)
    {final : Region} (deletes : repository.findAndDelete filter between = .ok ⟨rest⟩ final) :
    repository.findAndDelete filter region = .ok ⟨first :: rest⟩ final := by
  obtain ⟨-, settledNext⟩ := removed.settled settled
  rw [find_and_delete_settled steady filter settledNext, left] at deletes
  have inside := found_inside repository filter settled
  have insideNext := found_inside repository filter settledNext
  rw [matched] at inside
  rw [left] at insideNext
  obtain ⟨atOnce, removes, removedAll⟩ := removing_settled settled (List.cons_ne_nil _ _) inside
  -- The last match is deleted alone, and there is no second deletion to put together with it.
  have same : atOnce = final := by
    cases rest with
    | nil =>
        cases deletes
        exact removed.unique removedAll
    | cons second later =>
        obtain ⟨last, removesRest, removedRest⟩ :=
          removing_settled settledNext (List.cons_ne_nil _ _) insideNext
        cases removesRest.symm.trans deletes
        exact (removed.trans removedRest settled).unique removedAll
  rw [find_and_delete_settled steady filter settled, matched, removes, same]

/-- One deletion after another comes to deleting everything that is found in the beginning. -/
theorem exhausts_found (steady : repository.mapper.IsSteady) (settled : region.IsSettled)
    (spares : repository.SparesBlank filter region)
    (matched : repository.found filter region = indexes) :
    ∃ final, repository.findAndDelete filter region = .ok ⟨indexes⟩ final ∧
      Exhausts (repository.deleteOne filter) region (indexes.map fun index => ⟨[index]⟩) final := by
  -- By induction on the matches. That the region is settled, and that a blank row of it is passed
  -- over, holds again after each deletion.
  induction indexes generalizing region with
  | nil =>
      have deletes := find_and_delete_settled steady filter settled
      have single := delete_one_settled steady filter settled
      rw [matched] at deletes single
      exact ⟨region, deletes, .done single rfl⟩
  | cons first rest induction =>
      obtain ⟨between, deletes, removed, left⟩ := delete_one_step steady settled spares matched
      obtain ⟨sameSpan, settledNext⟩ := removed.settled settled
      have sparesNext : repository.SparesBlank filter between := by
        rw [SparesBlank, sameSpan]
        exact spares
      obtain ⟨final, deletesRest, exhausts⟩ := induction settledNext sparesNext left
      have deletesAll := find_and_delete_step steady settled matched removed left deletesRest
      exact ⟨final, deletesAll, .next deletes rfl exhausts⟩

end Repository

namespace DataSource

variable {source connected : DataSource} {selector : Selector} {place : Nat} {binding : Binding}
  {region : Region} {action : Repository → Action Region Deletion}

/-- What can be repeated on a region can be repeated through the data source. -/
theorem exhausts_of_access {repository : Repository} {steps : List Deletion} {final : Region}
    (access : source.Access selector connected place binding region)
    (works : binding.repository = repository)
    (exhausts : Exhausts (action repository) region steps final) :
    Exhausts (run selector action) source steps (connected.putRegion place binding final) := by
  induction exhausts generalizing source connected binding with
  | done ran nothing =>
      rw [← works] at ran
      exact .done ((run_of_access access).2 ⟨_, ran, rfl⟩) nothing
  | @next state between final deletion later ran something rest induction =>
      rw [← works] at ran
      have again := induction (access_again access between) works
      rw [put_again] at again
      exact .next ((run_of_access access).2 ⟨_, ran, rfl⟩) something again

end DataSource

namespace Repository

/-- Deleting one entity after another, until none is left to delete, against deleting all of them
at once, from a state of the data source in which the region reaches the bottom of its grid. If the
rows can be read, both come to an end in one and the same state, and the single deletions are those
of the rows that are deleted at once, in their order. Otherwise both fail alike. -/
theorem delete_in_turn {source connected : DataSource} {selector : Selector} {place : Nat}
    {binding : Binding} {region : Region} {filter : Filter} (reachable : source.Reachable)
    (access : source.Access selector connected place binding region)
    (exact : region.sheet.grid.IsExact) (bottom : region.AtBottom)
    (spares : binding.repository.SparesBlank filter region) :
    (∃ deletion final,
      DataSource.run selector (fun repository => repository.findAndDelete filter) source =
        .ok deletion final ∧
      ∀ steps last,
        Exhausts (DataSource.run selector fun repository => repository.deleteOne filter)
            source steps last ↔
          steps = deletion.indexes.map (fun index => ⟨[index]⟩) ∧ last = final) ∨
    ∃ error stopped,
      DataSource.run selector (fun repository => repository.findAndDelete filter) source =
        .error error stopped ∧
      DataSource.run selector (fun repository => repository.deleteOne filter) source =
        .error error stopped := by
  have steady := DataSource.steady_of_access reachable access
  cases read : region.sheet.grid.read region.span with
  | ok rows =>
      have settled : region.IsSettled := ⟨exact, (Grid.read_ok_iff.1 read).1, bottom⟩
      obtain ⟨final, deletes, exhausts⟩ := exhausts_found steady settled spares rfl
      have inTurn : Exhausts
          (DataSource.run selector fun repository => repository.deleteOne filter) source _ _ :=
        DataSource.exhausts_of_access access rfl exhausts
      left
      refine ⟨_, _, (DataSource.run_of_access access).2 ⟨final, deletes, rfl⟩, ?_⟩
      intro steps last
      constructor
      · intro others
        exact inTurn.unique others
      · intro same
        obtain ⟨rfl, rfl⟩ := same
        exact inTurn
  | error cause =>
      have reports := reported_apply binding.repository filter region
      rw [read] at reports
      have atOnce : binding.repository.findAndDelete filter region =
          .error (.grid cause) region := by
        rw [find_and_delete_of_reported, Action.bind_of_error reports]
      have single : binding.repository.deleteOne filter region = .error (.grid cause) region := by
        rw [delete_one_of_reported, Action.bind_of_error reports]
      right
      exact ⟨.grid cause, connected.putRegion place binding region,
        DataSource.run_fails_of_access access atOnce, DataSource.run_fails_of_access access single⟩

def named : Filter := Filter.empty.whereOperator "name" .notEqual (.value .empty)

theorem two_people_in_turn :
    twoPeople.Access (.name "people") twoPeople 0 firstPeople (firstRegion twoNames) ∧
      (firstRegion twoNames).AtBottom ∧
      firstPeople.repository.SparesBlank named (firstRegion twoNames) ∧
      ∃ final,
        DataSource.run (.name "people") (fun repository => repository.findAndDelete named)
          twoPeople = .ok ⟨[0, 1]⟩ final ∧
        Exhausts (DataSource.run (.name "people") fun repository => repository.deleteOne named)
          twoPeople [⟨[0]⟩, ⟨[1]⟩] final := by
  have access : twoPeople.Access (.name "people") twoPeople 0 firstPeople
      (firstRegion twoNames) := ⟨rfl, rfl, rfl⟩
  have exact : twoNames.IsExact := ⟨by decide, by decide⟩
  have spares : firstPeople.repository.SparesBlank named (firstRegion twoNames) := rfl
  have settled : (firstRegion twoNames).IsSettled := ⟨exact, rfl, rfl⟩
  have steady : firstPeople.repository.mapper.IsSteady := fun row index => rfl
  have matched : firstPeople.repository.found named (firstRegion twoNames) = [0, 1] := rfl
  obtain ⟨after, served, -⟩ := exhausts_found steady settled spares matched
  have ran : DataSource.run (.name "people") (fun repository => repository.findAndDelete named)
      twoPeople = .ok ⟨[0, 1]⟩ (twoPeople.putRegion 0 firstPeople after) :=
    (DataSource.run_of_access access).2 ⟨after, served, rfl⟩
  refine ⟨access, rfl, spares, ?_⟩
  rcases delete_in_turn two_people_reachable access exact rfl spares with
    ⟨deletion, final, deletes, inTurn⟩ | ⟨error, stopped, failed, -⟩
  · cases ran.symm.trans deletes
    exact ⟨_, deletes, (inTurn _ _).2 ⟨rfl, rfl⟩⟩
  · cases ran.symm.trans failed

end Repository

end GridStore
