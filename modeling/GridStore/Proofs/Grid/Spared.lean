import GridStore.Proofs.A1.RoundTrip
import GridStore.Proofs.Grid.Sort

/-!
Cells that work on a block spares: those above its first row and those beside its columns. Changes
that stay under the first row, and between the outer columns, keep every one of them.
-/

set_option autoImplicit false

namespace GridStore

namespace Span

/-- Above the first row of the block, or beside its columns. How far down the block reaches does
not matter. -/
def Spares (block : Span) (row column : Nat) : Prop :=
  row < block.row ∨ column < block.column ∨ block.column + block.columns ≤ column

structure Under (inner block : Span) : Prop where
  row : block.row ≤ inner.row
  left : block.column ≤ inner.column
  right : inner.column + inner.columns ≤ block.column + block.columns

theorem uncovered_of_spares {inner block : Span} {row column : Nat} (under : inner.Under block)
    (spares : block.Spares row column) : inner.covers row column = false := by
  refine Bool.eq_false_iff.2 fun covered => ?_
  obtain ⟨⟨top, -⟩, left, right⟩ := covers_iff.1 covered
  obtain ⟨low, inside, within⟩ := under
  unfold Spares at spares
  omega

end Span

namespace Grid

/-- Every cell that a block spares is there afterwards, as it was. -/
structure Spared (block : Span) (before after : Grid) : Prop where
  kept : ∀ row column cell, block.Spares row column → before.cell? row column = some cell →
    after.cell? row column = some cell

variable {block : Span} {grid middle after : Grid}

theorem spared_of_same (block : Span) (same : after = grid) : Spared block grid after :=
  ⟨fun _ _ _ _ held => same ▸ held⟩

theorem spared_trans (first : Spared block grid middle) (second : Spared block middle after) :
    Spared block grid after :=
  ⟨fun row column cell spares held =>
    second.kept row column cell spares (first.kept row column cell spares held)⟩

theorem spared_of_write {target : Span} {values : List Row} (under : target.Under block)
    (corner : 1 ≤ target.row ∧ 1 ≤ target.column) (wrote : grid.write target values = .ok after) :
    Spared block grid after :=
  ⟨fun row column cell spares held => (written_of_write corner wrote).kept row column cell
    (Span.uncovered_of_spares under spares) held⟩

theorem spared_of_blank {spans : List Span} (under : ∀ span ∈ spans, span.Under block) :
    Spared block grid (grid.blankBlocks spans) where
  kept row column cell spares held := by
    have missed : spans.any (fun span => span.covers row column) = false :=
      List.any_eq_false.2 fun span member =>
        Bool.eq_false_iff.1 (Span.uncovered_of_spares (under span member) spares)
    rw [cell_of_blank_blocks, held, missed]
    rfl

theorem spared_of_sort {span : Span} {column : Nat} {ascending : Bool} (under : span.Under block)
    (sorted : grid.sort span column ascending = .ok after) : Spared block grid after := by
  obtain ⟨readable, -, wrote⟩ := sort_ok_iff.1 sorted
  obtain ⟨⟨row, column, -⟩, -⟩ := inside_of_check readable
  exact spared_of_write under ⟨row, column⟩ wrote

theorem block_of_a1 {span found : Span} (addressable : span.Addressable)
    (read : grid.blockOfAddress span.a1 = .ok found) : found = span := by
  rw [blockOfAddress, Span.of_a1_a1 addressable] at read
  cases checked : grid.checkBounds span with
  | error cause =>
      simp only [checked] at read
      cases read
  | ok nothing =>
      simp only [checked] at read
      exact (Except.ok.inj read).symm

theorem blocks_of_a1 {spans found : List Span} (addressable : ∀ span ∈ spans, span.Addressable)
    (read : (spans.map Span.a1).mapM grid.blockOfAddress = .ok found) : found = spans := by
  induction spans generalizing found with
  | nil => exact (Except.ok.inj read).symm
  | cons span rest induction =>
      obtain ⟨fits, later⟩ := List.forall_mem_cons.1 addressable
      rw [List.map_cons, List.mapM_cons] at read
      cases here : grid.blockOfAddress span.a1 with
      | error cause =>
          rw [here] at read
          cases read
      | ok first =>
          cases there : (rest.map Span.a1).mapM grid.blockOfAddress with
          | error cause =>
              rw [here, there] at read
              cases read
          | ok others =>
              rw [here, there] at read
              rw [← block_of_a1 fits here, ← induction later there]
              exact (Except.ok.inj read).symm

theorem spared_of_clear {spans : List Span} (addressable : ∀ span ∈ spans, span.Addressable)
    (under : ∀ span ∈ spans, span.Under block)
    (cleared : grid.clear (spans.map Span.a1) = .ok after) : Spared block grid after := by
  rw [clear] at cleared
  cases read : (spans.map Span.a1).mapM grid.blockOfAddress with
  | error cause =>
      rw [read] at cleared
      cases cleared
  | ok found =>
      rw [read, blocks_of_a1 addressable read] at cleared
      obtain rfl := Except.ok.inj cleared
      exact spared_of_blank under

/-- Content in a row keeps the last row from being above it. -/
theorem row_le_last_row {row column : Nat} {cell : Cell} (held : grid.cell? row column = some cell)
    (content : cell.isBlank = false) : row ≤ grid.lastRow := by
  refine Nat.le_of_not_lt fun below => ?_
  rw [grid.last_row_is_last_filled.1 row column cell below held] at content
  cases content

end Grid

end GridStore
