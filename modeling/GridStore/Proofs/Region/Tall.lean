import GridStore.Proofs.Number.Between
import GridStore.Proofs.Region.Steps

/-!
Tall grids. Rows that are appended to an exact grid may leave it with up to twice as many rows as
numbers keep exactly. The height of a region is rounded then, but measuring it does not fail.
-/

set_option autoImplicit false

namespace GridStore

namespace Address

theorem tall_height {left right : Nat} (large : exactBound ≤ left) (small : left ≤ 2 * exactBound)
    (exact : right < exactBound) :
    ((Number.ofNat left).sub (.ofNat right)).isFinite = true ∧
      IsCoordinate ((Number.ofNat left).sub (.ofNat right)).trunc ∧
      1 ≤ ((Number.ofNat left).sub (.ofNat right)).trunc.toNat ∧
      ((Number.ofNat left).sub (.ofNat right)).trunc.toNat ≤ 16 * exactBound := by
  have positive := unitsPerOne_positive
  have bound : 16 * exactBound * unitsPerOne < Size.bound * unitsPerOne :=
    Nat.mul_lt_mul_of_pos_right (by decide) positive
  obtain ⟨magnitude, difference, one, below⟩ := Number.sub_of_large large small exact
  obtain ⟨whole, truncated, least, most⟩ := Number.trunc_between one below
  have nonzero : whole.units ≠ 0 := by omega
  rw [difference, truncated]
  refine ⟨rfl, ⟨beq_eq_false_iff_ne.2 nonzero, is_no_size_of_units (Nat.lt_of_le_of_lt most bound)⟩,
    ?_, ?_⟩
  · exact (Nat.le_div_iff_mul_le positive).2 least
  · exact Nat.div_le_of_le_mul (Nat.mul_comm _ _ ▸ most)

end Address

namespace Region

open Address

variable {grid : Grid} {cache : MetricCache}

/-- A block of kept sizes is measured without fail in a grid that is not too tall. -/
theorem resolve_to_tall_bottom (faithful : cache.IsFaithful grid)
    (tall : grid.maxRows ≤ 2 * exactBound) {row column columns : Nat}
    (inside : 1 ≤ row ∧ row ≤ grid.maxRows) (rowExact : row ≤ exactBound)
    (columnKept : IsKept column) (columnsKept : IsKept columns)
    (positive : 1 ≤ column ∧ 1 ≤ columns) (right : column + columns ≤ Size.largest) :
    ∃ measured cache', resolve grid (addressToBottom row column columns) cache =
      .ok measured cache' := by
  by_cases exact : grid.maxRows < exactBound
  · obtain ⟨cache', -, resolved⟩ :=
      resolve_kept_to_bottom faithful exact inside columnKept columnsKept positive right
    exact ⟨_, cache', resolved⟩
  · obtain ⟨finite, coordinate, least, most⟩ :=
      tall_height (Nat.le_of_not_lt exact) tall (by omega : row - 1 < exactBound)
    have rowKept := kept_of_exact inside.1 rowExact
    have bound : exactBound + 16 * exactBound ≤ Size.largest := by decide
    obtain ⟨cache', failure, -, measures⟩ := coordinate_rows_minus faithful (row - 1)
    rw [if_pos finite, ← or_one_rows_minus] at measures
    generalize ((Number.ofNat grid.maxRows).sub (.ofNat (row - 1))).trunc = height at *
    refine ⟨⟨row, column, height.toNat, columns⟩, cache', ?_⟩
    rw [address_to_bottom_of_pos inside.1, resolve_number_row (is_present_iff.2 inside.1)
      (is_present_iff.2 positive.1), resolve_tokens_ok_iff]
    refine ⟨_, _, _, _, _, _, _, coordinate_of_nat row, coordinate_of_nat column, measures,
      or_one_coordinate positive.2,
      ⟨rowKept.coordinate, columnKept.coordinate, coordinate, columnsKept.coordinate⟩, ?_, ?_⟩
    · rw [rowKept.same, columnKept.same, columnsKept.same]
    · refine ⟨⟨inside.1, positive.1, least, positive.2⟩, ?_, right⟩
      exact Nat.le_trans (Nat.add_le_add rowExact most) bound

end Region

end GridStore
