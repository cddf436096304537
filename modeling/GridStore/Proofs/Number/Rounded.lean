import GridStore.Proofs.Number.Whole

/-!
Naturals past the exact bound: what a natural is rounded to is a whole number again, so that it is
neither truncated nor rounded a second time.
-/

set_option autoImplicit false

namespace GridStore

/-- From `2 ^ 53` on neighbouring magnitudes are at least two apart, so all of them are whole. -/
theorem whole_of_large {magnitude : Magnitude}
    (large : exactBound * unitsPerOne ≤ magnitude.units) :
    Number.wholePart magnitude * unitsPerOne = magnitude.units := by
  obtain ⟨exponent, power⟩ := unitsPerOne_is_power
  have scaled : 2 ^ (53 + exponent) ≤ magnitude.units := by
    rw [power] at large
    rw [Nat.pow_add]
    exact large
  have nonzero : magnitude.units ≠ 0 := fun zero => by
    rw [zero] at scaled
    exact absurd (Nat.two_pow_pos _) (Nat.not_lt.2 scaled)
  have binade : 53 + exponent ≤ magnitude.units.log2 := (Nat.le_log2 nonzero).2 scaled
  have coarse : unitsPerOne ∣ spacing magnitude.units := by
    rw [power]
    exact Nat.pow_dvd_pow 2 (by omega)
  have onGrid : spacing magnitude.units ∣ magnitude.units :=
    Nat.dvd_of_mod_eq_zero magnitude.representable.2
  exact Nat.div_mul_cancel (Nat.dvd_trans coarse onGrid)

namespace Number

/-- What a natural becomes as a number: infinite, or whole. -/
theorem of_nat_whole (count : Nat) :
    ofNat count = .infinite false ∨
      ∃ magnitude, ofNat count = .finite false magnitude ∧
        wholePart magnitude * unitsPerOne = magnitude.units := by
  by_cases small : count ≤ exactBound
  · refine Or.inr ⟨_, of_nat_eq small, ?_⟩
    rw [wholePart, Nat.mul_div_cancel _ unitsPerOne_positive]
  · have large : Nat.pow 2 53 ≤ count := Nat.le_of_lt (Nat.lt_of_not_le small)
    refine (of_nat_cases large).imp_right ?_
    rintro ⟨magnitude, finite, units⟩
    rw [exactBound_is_power] at units
    exact ⟨magnitude, finite, whole_of_large units⟩

theorem trunc_rounded (count : Nat) : (ofNat count).trunc = ofNat count := by
  rcases of_nat_whole count with infinite | ⟨magnitude, finite, whole⟩
  · rw [infinite]
    rfl
  · rw [finite, trunc, whole, ofUnits_units]

theorem of_nat_rounded {count : Nat} (finite : (ofNat count).isFinite = true) :
    ofNat (ofNat count).toNat = ofNat count := by
  rcases of_nat_whole count with infinite | ⟨magnitude, same, whole⟩
  · rw [infinite] at finite
    cases finite
  · rw [same, toNat, ofNat, whole, ofUnits_units]

/-- Rounding does not get below an exact number. -/
theorem to_nat_at_least {least count : Nat} (small : least ≤ exactBound) (above : least ≤ count)
    (finite : (ofNat count).isFinite = true) : least ≤ (ofNat count).toNat := by
  rcases Address.of_nat_at_least small above with infinite | ⟨magnitude, same, units⟩
  · rw [infinite] at finite
    cases finite
  · rw [same]
    exact (Nat.le_div_iff_mul_le unitsPerOne_positive).2 units

theorem large_at_least {magnitude : Magnitude}
    (large : exactBound * unitsPerOne ≤ magnitude.units) :
    exactBound ≤ (trunc (.finite false magnitude)).toNat := by
  rw [trunc, whole_of_large large, ofUnits_units]
  exact (Nat.le_div_iff_mul_le unitsPerOne_positive).2 large

theorem add_one_of_finite (magnitude : Magnitude) :
    ∃ units, magnitude.units ≤ units ∧
      (Number.finite false magnitude).add (ofNat 1) = ofUnits false units 1 := by
  have positive := unitsPerOne_positive
  refine ⟨magnitude.units + 1 * unitsPerOne, Nat.le_add_right _ _, ?_⟩
  have sum : position (.finite false magnitude) +
      position (.finite false ⟨1 * unitsPerOne, whole_representable (by decide)⟩) =
        ((magnitude.units + 1 * unitsPerOne : Nat) : Int) := rfl
  rw [of_nat_eq (by decide), add, sum, if_neg (by omega), Int.natAbs_natCast,
    decide_eq_false (by omega)]

/-- The successor of a natural, computed with numbers, does not get below an exact number either. -/
theorem successor_at_least {least count : Nat} (small : least ≤ exactBound)
    (above : least ≤ count + 1) (finite : ((ofNat count).add (ofNat 1)).isFinite = true) :
    least ≤ ((ofNat count).add (ofNat 1)).trunc.toNat := by
  by_cases exact : count < exactBound
  · rw [add_of_nat (Nat.le_of_lt exact) (by decide), trunc_of_nat exact, to_nat_of_nat exact]
    exact above
  · have large : Nat.pow 2 53 ≤ count := Nat.le_of_not_lt exact
    rcases of_nat_cases large with infinite | ⟨magnitude, same, units⟩
    · rw [infinite, of_nat_eq (by decide)] at finite
      cases finite
    · obtain ⟨sum, total, summed⟩ := add_one_of_finite magnitude
      rw [same, summed] at finite ⊢
      rcases of_units_cases (Nat.le_trans units total) with infinite | ⟨rounded, kept, enough⟩
      · rw [infinite] at finite
        cases finite
      · rw [exactBound_is_power] at enough
        rw [kept]
        exact Nat.le_trans small (large_at_least enough)

end Number

end GridStore
