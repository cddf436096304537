import GridStore.Proofs.Address.Resolve

/-!
What addresses make of sizes that they are given as numbers. A size past the exact bound is rounded,
once: what it has been rounded to is kept from then on.
-/

set_option autoImplicit false

namespace GridStore

namespace Address

variable {grid : Grid} {cache final : MetricCache}

theorem is_finite_of_coordinate {size : Nat} (fits : IsCoordinate (.ofNat size)) :
    (Number.ofNat size).isFinite = true := by
  rcases Number.of_nat_whole size with infinite | ⟨magnitude, finite, -⟩
  · have size := fits.2
    rw [infinite] at size
    exact absurd is_no_size_infinite (ne_true_of_eq_false size)
  · rw [finite]
    rfl

/-- What a size has been rounded to is kept. -/
theorem kept_of_coordinate {size : Nat} (fits : IsCoordinate (.ofNat size)) :
    IsKept (Number.ofNat size).toNat := by
  have rounded := Number.of_nat_rounded (is_finite_of_coordinate fits)
  refine ⟨?_, ?_⟩
  · rw [rounded]
    exact fits
  · rw [rounded]

/-- What addresses make of a size that they are given as a number. -/
structure RoundedTo (asked size : Nat) : Prop where
  finite : (Number.ofNat asked).isFinite = true
  same : size = (Number.ofNat asked).toNat
  kept : IsKept size

theorem RoundedTo.eq_of_kept {asked size : Nat} (rounded : RoundedTo asked size)
    (kept : IsKept asked) : size = asked := rounded.same.trans kept.same

theorem RoundedTo.at_least {asked size least : Nat} (rounded : RoundedTo asked size)
    (small : least ≤ exactBound) (above : least ≤ asked) : least ≤ size := by
  rw [rounded.same]
  exact Number.to_nat_at_least small above rounded.finite

theorem RoundedTo.eq_of_exact {asked size : Nat} (rounded : RoundedTo asked size)
    (exact : size < exactBound ∨ asked ≤ exactBound) : size = asked := by
  have small : asked ≤ exactBound := by
    rcases exact with below | small
    · refine Nat.le_of_not_lt fun large => ?_
      exact absurd (rounded.at_least (Nat.le_refl exactBound) (Nat.le_of_lt large))
        (Nat.not_le.2 below)
    · exact small
  rw [rounded.same, Number.to_nat_of_nat small]

theorem rounded_of_coordinate {asked : Nat} {value : Number}
    (same : value = (Number.ofNat asked).trunc) (fits : IsCoordinate value) :
    RoundedTo asked value.toNat := by
  rw [Number.trunc_rounded] at same
  rw [same] at fits ⊢
  exact ⟨is_finite_of_coordinate fits, rfl, kept_of_coordinate fits⟩

theorem present_of_resolved {value : Number} {column rows columns : AddressToken} {span : Span}
    (resolved : resolve grid ⟨.number value, column, rows, columns⟩ cache = .ok span final) :
    AddressToken.isPresent (.number value) = true ∧ column.isPresent = true := by
  by_cases present : (AddressToken.isPresent (.number value) && column.isPresent) = true
  · simpa using present
  · simp [resolve, resolveParts, present] at resolved

theorem coordinate_number_ok {value result : Number} {cache' : MetricCache}
    (resolved : coordinate grid (.number value) cache = .ok result cache') :
    result = value.trunc ∧ cache' = cache := by
  obtain ⟨truncated, unchanged⟩ := EStateM.Result.ok.inj resolved
  exact ⟨truncated.symm, unchanged.symm⟩

theorem or_one_of_count (count : Nat) :
    orOne (.number (.ofNat count)) = .number (.ofNat (max 1 count)) := by
  rw [orOne, is_present_of_nat]
  by_cases positive : 0 < count
  · rw [if_pos (decide_eq_true positive), Nat.max_eq_right positive]
  · rw [if_neg (by simpa using positive), Nat.max_eq_left (by omega)]

theorem coordinate_or_one {count : Nat} {value : Number} {cache' : MetricCache}
    (resolved : coordinate grid (orOne (.number (.ofNat count))) cache = .ok value cache') :
    value = (Number.ofNat (max 1 count)).trunc ∧ cache' = cache := by
  rw [or_one_of_count] at resolved
  exact coordinate_number_ok resolved

/-- The corner and the width of a block are those asked for, rounded, whatever its height. -/
theorem rounded_of_numbers {row column columns : Nat} {rows : AddressToken} {found : Span}
    (resolved : resolve grid
      ⟨.number (.ofNat row), .number (.ofNat column), rows, .number (.ofNat columns)⟩ cache =
        .ok found final) :
    RoundedTo row found.row ∧ RoundedTo column found.column ∧
      RoundedTo (max 1 columns) found.columns ∧ found.Addressable := by
  obtain ⟨rowPresent, columnPresent⟩ := present_of_resolved resolved
  rw [resolve_number_row rowPresent columnPresent, resolve_tokens_ok_iff] at resolved
  obtain ⟨rowValue, columnValue, rowsValue, columnsValue, cache₁, cache₂, cache₃, rowed, columned,
    tall, wide, ⟨rowFits, columnFits, rowsFit, columnsFit⟩, spanned, fits⟩ := resolved
  have top := rounded_of_coordinate (coordinate_number_ok rowed).1 rowFits
  have left := rounded_of_coordinate (coordinate_number_ok columned).1 columnFits
  have width := rounded_of_coordinate (coordinate_or_one wide).1 columnsFit
  rw [spanned] at fits ⊢
  exact ⟨top, left, width, fits⟩

end Address

end GridStore
