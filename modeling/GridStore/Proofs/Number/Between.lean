import GridStore.Proofs.Number.Rounded

/-!
Numbers between powers of two. Rounding does not leave the powers that a number lies between, so
the height of a grid with twice as many rows as are kept exactly is a size yet, if not the exact one.
-/

set_option autoImplicit false

namespace GridStore

/-- Rounding stays at or below every power of two that it starts below, because the power is a
multiple of the spacing. -/
theorem rounded_units_le_pow {exponent numerator denominator : Nat}
    (below : numerator / denominator < Nat.pow 2 exponent) :
    roundedUnits numerator denominator ≤ Nat.pow 2 exponent := by
  unfold roundedUnits
  dsimp only
  rw [← Nat.div_div_eq_div_mul]
  generalize numerator / denominator = units at below ⊢
  have positive : 0 < spacing units := Nat.two_pow_pos _
  have divides : spacing units ∣ Nat.pow 2 exponent := by
    by_cases nothing : units = 0
    · rw [nothing]
      exact Nat.one_dvd _
    · have binade : units.log2 < exponent := (Nat.log2_lt nothing).2 below
      exact Nat.pow_dvd_pow 2 (by omega)
  have room : units / spacing units + 1 ≤ Nat.pow 2 exponent / spacing units := by
    rw [Nat.succ_le_iff, Nat.div_lt_iff_lt_mul positive, Nat.div_mul_cancel divides]
    exact below
  refine Nat.le_trans (Nat.mul_le_mul_right _ ?_) (Nat.le_of_eq (Nat.div_mul_cancel divides))
  split <;> omega

namespace Number

theorem pow_below_limit {exponent : Nat} (small : exponent ≤ 64) :
    Nat.pow 2 exponent * unitsPerOne < unitsLimit := by
  have largest : Size.bound * unitsPerOne < unitsLimit := by decide +kernel
  have power : Nat.pow 2 exponent ≤ Size.bound := Nat.pow_le_pow_right (by decide) small
  exact Nat.lt_of_le_of_lt (Nat.mul_le_mul_right unitsPerOne power) largest

theorem of_units_between {least most units : Nat} (low high : Nat)
    (leastPower : Nat.pow 2 low = least) (mostPower : Nat.pow 2 high = most) (small : high ≤ 64)
    (above : least * unitsPerOne ≤ units) (below : units < most * unitsPerOne) :
    ∃ magnitude, ofUnits false units 1 = .finite false magnitude ∧
      least * unitsPerOne ≤ magnitude.units ∧ magnitude.units ≤ most * unitsPerOne := by
  subst leastPower mostPower
  have bounded : roundedUnits units 1 ≤ Nat.pow 2 high * unitsPerOne := by
    obtain ⟨scale, power⟩ := unitsPerOne_is_power
    simp only [power, Nat.pow_eq, ← Nat.pow_add] at below ⊢
    apply rounded_units_le_pow
    rwa [Nat.div_one]
  have finite : roundedUnits units 1 < unitsLimit :=
    Nat.lt_of_le_of_lt bounded (pow_below_limit small)
  rcases of_units_cases above with infinite | ⟨magnitude, same, least⟩
  · rw [ofUnits, dif_pos finite] at infinite
    cases infinite
  · refine ⟨magnitude, same, least, ?_⟩
    rw [ofUnits, dif_pos finite] at same
    obtain ⟨-, rfl⟩ := Number.finite.inj same
    exact bounded

theorem sub_of_less (left right : Magnitude) (less : right.units < left.units) :
    (Number.finite false left).sub (.finite false right) =
      ofUnits false (left.units - right.units) 1 := by
  have difference : position (.finite false left) + position (.finite (!false) right) =
      ((left.units - right.units : Nat) : Int) := by
    simp only [position, Bool.false_eq_true, Bool.not_false, if_true, if_false]
    omega
  rw [sub, neg, add, difference, if_neg (by omega), Int.natAbs_natCast, decide_eq_false (by omega)]

theorem sub_of_large {left right : Nat} (large : exactBound ≤ left)
    (small : left ≤ 2 * exactBound) (exact : right < exactBound) :
    ∃ magnitude, (ofNat left).sub (ofNat right) = .finite false magnitude ∧
      1 * unitsPerOne ≤ magnitude.units ∧ magnitude.units ≤ 8 * exactBound * unitsPerOne := by
  have positive := unitsPerOne_positive
  have double : left < 4 * exactBound :=
    Nat.lt_of_le_of_lt small (Nat.mul_lt_mul_of_pos_right (by decide) (by decide))
  have wide : 4 * exactBound * unitsPerOne < 8 * exactBound * unitsPerOne :=
    Nat.mul_lt_mul_of_pos_right (by decide) positive
  have fourfold : Nat.pow 2 55 = 4 * exactBound := by decide
  have eightfold : Nat.pow 2 56 = 8 * exactBound := by decide
  obtain ⟨magnitude, same, above, below⟩ := of_units_between 53 55 exactBound_is_power fourfold
    (by decide) (Nat.mul_le_mul_right unitsPerOne large)
    (Nat.mul_lt_mul_of_pos_right double positive)
  have taken : (right + 1) * unitsPerOne ≤ magnitude.units :=
    Nat.le_trans (Nat.mul_le_mul_right unitsPerOne exact) above
  rw [Nat.add_mul] at taken
  have smaller : right * unitsPerOne < magnitude.units := by omega
  have one : 1 * unitsPerOne ≤ magnitude.units - right * unitsPerOne := by omega
  have single : Nat.pow 2 0 = 1 := rfl
  obtain ⟨difference, rounded, least, most⟩ := of_units_between 0 56 single eightfold
    (by decide) one (Nat.lt_of_le_of_lt (Nat.sub_le _ _) (Nat.lt_of_le_of_lt below wide))
  refine ⟨difference, ?_, least, most⟩
  rw [ofNat, same, of_nat_eq (Nat.le_of_lt exact), sub_of_less magnitude
    ⟨right * unitsPerOne, whole_representable (Nat.le_of_lt exact)⟩ smaller, rounded]

theorem trunc_between {magnitude : Magnitude} (one : 1 * unitsPerOne ≤ magnitude.units)
    (below : magnitude.units ≤ 8 * exactBound * unitsPerOne) :
    ∃ whole, trunc (.finite false magnitude) = .finite false whole ∧
      1 * unitsPerOne ≤ whole.units ∧ whole.units ≤ 16 * exactBound * unitsPerOne := by
  have positive := unitsPerOne_positive
  have wide : 8 * exactBound * unitsPerOne < 16 * exactBound * unitsPerOne :=
    Nat.mul_lt_mul_of_pos_right (by decide) positive
  have least : 1 ≤ wholePart magnitude := (Nat.le_div_iff_mul_le positive).2 one
  have most : wholePart magnitude * unitsPerOne ≤ magnitude.units := Nat.div_mul_le_self _ _
  have single : Nat.pow 2 0 = 1 := rfl
  have sixteenfold : Nat.pow 2 57 = 16 * exactBound := by decide
  exact of_units_between 0 57 single sixteenfold (by decide)
    (Nat.mul_le_mul_right unitsPerOne least)
    (Nat.lt_of_le_of_lt (Nat.le_trans most below) wide)

end Number

end GridStore
