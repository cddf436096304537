import GridStore.Proofs.A1.Bounds
import GridStore.Proofs.Beside
import GridStore.Proofs.Canonical.Grid

/-!
Clearing blocks by a list of addresses. All addresses are read against the grid as it was before,
and the grid changes only when each of them names a block within it. What is blanked is the union of
these blocks, so that neither the order of the addresses nor listing one of them again matters.
-/

set_option autoImplicit false

namespace GridStore

theorem Span.proper_of_a1 {text : String} {maxRows maxColumns : Nat} {span : Span}
    (read : ofA1 text maxRows maxColumns = .ok span) : span.isDegenerate = false := by
  obtain ⟨reference, -, -, rfl⟩ := of_a1_ok_iff.1 read
  simp [isDegenerate, between]

namespace Grid

/-- An address that names no block, or a block that reaches past the grid. -/
inductive Unclearable (grid : Grid) (address : String) : Prop where
  | unreadable (cause : RangeError)
      (read : Span.ofA1 address grid.maxRows grid.maxColumns = .error cause)
  | outside (span : Span) (read : Span.ofA1 address grid.maxRows grid.maxColumns = .ok span)
      (past : grid.maxRows < span.lastRow ∨ grid.maxColumns < span.lastColumn)

def names (grid : Grid) (row column : Nat) (address : String) : Bool :=
  match Span.ofA1 address grid.maxRows grid.maxColumns with
  | .ok span => span.covers row column
  | .error _ => false

structure Cleared (before after : Grid) (addresses : List String) : Prop where
  name : after.name = before.name
  maxRows : after.maxRows = before.maxRows
  maxColumns : after.maxColumns = before.maxColumns
  blanked : ∀ row column, addresses.any (before.names row column) = true →
    after.cell? row column = some .empty
  kept : ∀ row column, addresses.any (before.names row column) = false →
    after.cell? row column = before.cell? row column

variable {grid after other : Grid} {address : String} {span : Span} {addresses others : List String}

section Addresses

theorem block_of_address_ok_iff :
    grid.blockOfAddress address = .ok span ↔
      Span.ofA1 address grid.maxRows grid.maxColumns = .ok span ∧
        span.lastRow ≤ grid.maxRows ∧ span.lastColumn ≤ grid.maxColumns := by
  rw [blockOfAddress]
  cases read : Span.ofA1 address grid.maxRows grid.maxColumns with
  | error cause =>
      constructor
      · intro found
        cases found
      · intro named
        cases named.1
  | ok block =>
      constructor
      · intro found
        obtain ⟨nothing, checked, finished⟩ := except_bind_ok_iff.1 found
        cases finished
        exact ⟨rfl, (check_bounds_ok_iff.1 checked).2⟩
      · intro named
        obtain ⟨same, inside⟩ := named
        cases same
        have checked := check_bounds_ok_iff.2 ⟨Span.proper_of_a1 read, inside⟩
        exact except_bind_ok_iff.2 ⟨(), checked, rfl⟩

/-- Only an address that cannot be cleared has no block. -/
theorem unclearable_iff :
    grid.Unclearable address ↔ ∃ cause, grid.blockOfAddress address = .error cause := by
  constructor
  · intro unclearable
    cases found : grid.blockOfAddress address with
    | error cause => exact ⟨cause, rfl⟩
    | ok span =>
        obtain ⟨named, inside⟩ := block_of_address_ok_iff.1 found
        cases unclearable with
        | unreadable cause read => cases named.symm.trans read
        | outside block read past =>
            cases named.symm.trans read
            omega
  · intro failed
    obtain ⟨cause, failed⟩ := failed
    cases read : Span.ofA1 address grid.maxRows grid.maxColumns with
    | error unread => exact .unreadable unread read
    | ok span =>
        apply Unclearable.outside span read
        by_contra inside
        have found := block_of_address_ok_iff.2 ⟨read, by omega⟩
        cases found.symm.trans failed

theorem names_of_block {row column : Nat} (found : grid.blockOfAddress address = .ok span) :
    grid.names row column address = span.covers row column := by
  rw [names, (block_of_address_ok_iff.1 found).1]

theorem cell_of_block {row column : Nat} (found : grid.blockOfAddress address = .ok span)
    (covered : span.covers row column = true) : ∃ cell, grid.cell? row column = some cell := by
  obtain ⟨read, bottom, right⟩ := block_of_address_ok_iff.1 found
  have proper := Span.proper_of_a1 read
  simp only [Span.isDegenerate, Bool.or_eq_false_iff, beq_eq_false_iff_ne] at proper
  obtain ⟨⟨top, low⟩, left, wide⟩ := Span.covers_iff.1 covered
  rw [Span.lastRow] at bottom
  rw [Span.lastColumn] at right
  have allocated : (1 ≤ row ∧ row ≤ grid.maxRows) ∧ 1 ≤ column ∧ column ≤ grid.maxColumns := by
    omega
  exact Option.isSome_iff_exists.1 ((isSome_cell? grid row column).2 allocated)

end Addresses

theorem clear_ok_iff :
    grid.clear addresses = .ok after ↔
      ∃ spans, addresses.mapM grid.blockOfAddress = .ok spans ∧ grid.blankBlocks spans = after := by
  rw [clear, except_bind_ok_iff]
  simp only [pure, Except.pure, Except.ok.injEq]

theorem block_of_cleared (cleared : grid.clear addresses = .ok after)
    (member : address ∈ addresses) : ∃ span, grid.blockOfAddress address = .ok span := by
  obtain ⟨spans, listed, -⟩ := clear_ok_iff.1 cleared
  obtain ⟨span, -, found⟩ := partner_of_beside (beside_of_map_m listed) member
  exact ⟨span, found⟩

theorem clear_fails_iff :
    (∃ cause, grid.clear addresses = .error cause) ↔
      ∃ address ∈ addresses, grid.Unclearable address := by
  constructor
  · intro failed
    obtain ⟨cause, failed⟩ := failed
    rcases except_bind_error_iff.1 failed with unlisted | ⟨spans, -, ended⟩
    · obtain ⟨address, member, refused⟩ := failed_of_map_m unlisted
      exact ⟨address, member, unclearable_iff.2 ⟨cause, refused⟩⟩
    · cases ended
  · intro unclearable
    obtain ⟨address, member, unclearable⟩ := unclearable
    obtain ⟨cause, refused⟩ := unclearable_iff.1 unclearable
    cases cleared : grid.clear addresses with
    | error reason => exact ⟨reason, rfl⟩
    | ok after =>
        obtain ⟨span, found⟩ := block_of_cleared cleared member
        cases found.symm.trans refused

theorem cleared_of_clear (cleared : grid.clear addresses = .ok after) :
    grid.Cleared after addresses := by
  obtain ⟨spans, found, rfl⟩ := clear_ok_iff.1 cleared
  have named : ∀ row column, addresses.any (grid.names row column) =
      spans.any fun span => span.covers row column := by
    intro row column
    apply any_of_beside (beside_of_map_m found)
    intro address span block
    exact names_of_block block
  refine ⟨rfl, List.length_mapIdx, rfl, ?_, ?_⟩
  · intro row column inside
    obtain ⟨address, member, covered⟩ := List.any_eq_true.1 inside
    obtain ⟨span, block⟩ := block_of_cleared cleared member
    rw [names_of_block block] at covered
    obtain ⟨cell, held⟩ := cell_of_block block covered
    rw [named] at inside
    rw [cell_of_blank_blocks, held, Option.map_some, if_pos inside]
  · intro row column outside
    rw [named] at outside
    rw [cell_of_blank_blocks, outside]
    simp

/-- Lists of the same addresses, in whatever order and however often each is listed, blank the same
cells. -/
theorem Cleared.unique (first : grid.Cleared after addresses) (second : grid.Cleared other others)
    (same : ∀ address, address ∈ others ↔ address ∈ addresses) : other = after := by
  apply eq_of_cells (second.name.trans first.name.symm) (second.maxRows.trans first.maxRows.symm)
    (second.maxColumns.trans first.maxColumns.symm)
  -- Both descriptions are of the extent and the addresses before, so the cells settle it.
  intro row column
  have alike : others.any (grid.names row column) = addresses.any (grid.names row column) := by
    rw [Bool.eq_iff_iff, List.any_eq_true, List.any_eq_true]
    simp only [same]
  cases named : addresses.any (grid.names row column) with
  | true => rw [first.blanked row column named, second.blanked row column (alike.trans named)]
  | false => rw [first.kept row column named, second.kept row column (alike.trans named)]

theorem clear_same_addresses (cleared : grid.clear addresses = .ok after)
    (same : ∀ address, address ∈ others ↔ address ∈ addresses) :
    grid.clear others = .ok after := by
  cases again : grid.clear others with
  | error cause =>
      obtain ⟨address, member, unclearable⟩ := clear_fails_iff.1 ⟨cause, again⟩
      obtain ⟨reason, failed⟩ := clear_fails_iff.2 ⟨address, (same address).1 member, unclearable⟩
      cases cleared.symm.trans failed
  | ok grid =>
      rw [(cleared_of_clear cleared).unique (cleared_of_clear again) same]

end Grid

namespace Sheet

variable {sheet stopped after : Sheet} {addresses : List String}

theorem clear_ok_iff :
    clear addresses sheet = .ok () after ↔
      ∃ grid, sheet.grid.clear addresses = .ok grid ∧ after = ⟨grid, .empty⟩ :=
  Region.change_ok_iff

theorem clear_error_iff {error : Error} :
    clear addresses sheet = .error error stopped ↔
      ∃ cause, sheet.grid.clear addresses = .error cause ∧ error = .grid cause ∧
        stopped = ⟨sheet.grid, .empty⟩ := by
  cases cleared : sheet.grid.clear addresses with
  | ok grid =>
      have changed := clear_ok_iff.2 ⟨grid, cleared, rfl⟩
      simp [changed]
  | error cause =>
      have refused : clear addresses sheet = .error (.grid cause) ⟨sheet.grid, .empty⟩ :=
        Region.change_error cleared
      simp [refused, eq_comm]

/-- What clearing a list of addresses comes to. -/
structure ClearsTogether (sheet : Sheet) (addresses : List String) : Prop where
  fails : (∃ error stopped, clear addresses sheet = .error error stopped) ↔
    ∃ address ∈ addresses, sheet.grid.Unclearable address
  untouched : ∀ error stopped, clear addresses sheet = .error error stopped →
    stopped.grid = sheet.grid
  cleared : ∀ after, clear addresses sheet = .ok () after →
    sheet.grid.Cleared after.grid addresses
  unordered : ∀ others, (∀ address, address ∈ others ↔ address ∈ addresses) →
    ∀ after, clear others sheet = .ok () after ↔ clear addresses sheet = .ok () after

/-- A list of addresses is cleared as a whole or not at all, and only what is listed matters, in
whatever order and however often. -/
theorem clears_together (sheet : Sheet) (addresses : List String) :
    sheet.ClearsTogether addresses where
  fails := by
    rw [← Grid.clear_fails_iff]
    constructor
    · intro failed
      obtain ⟨error, stopped, failed⟩ := failed
      obtain ⟨cause, refused, -⟩ := clear_error_iff.1 failed
      exact ⟨cause, refused⟩
    · intro failed
      obtain ⟨cause, refused⟩ := failed
      exact ⟨_, _, clear_error_iff.2 ⟨cause, refused, rfl, rfl⟩⟩
  untouched error stopped failed := by
    obtain ⟨cause, -, -, rfl⟩ := clear_error_iff.1 failed
    rfl
  cleared after ran := by
    obtain ⟨grid, cleared, rfl⟩ := clear_ok_iff.1 ran
    exact Grid.cleared_of_clear cleared
  unordered others same after := by
    rw [clear_ok_iff, clear_ok_iff]
    apply exists_congr
    intro grid
    apply and_congr_left
    intro finished
    constructor
    · intro cleared
      exact Grid.clear_same_addresses cleared fun address => (same address).symm
    · intro cleared
      exact Grid.clear_same_addresses cleared same

/-- A column that is open at its end, and one cell in two spellings. -/
example : ((Grid.ofRows "people" [[.string "Ann", .boolean true], [.string "Bob", .empty]]).clear
    ["b1:B", "A2", " a2 "]).map Grid.rows =
      .ok [[.string "Ann", .empty], [.empty, .empty]] := by decide +kernel

end Sheet

end GridStore
