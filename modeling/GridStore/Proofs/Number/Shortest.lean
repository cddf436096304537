import GridStore.Proofs.Number.Nearest
import Mathlib.Data.Int.ModEq

/-!
Shortest decimals. Everything inside the rounding interval of a magnitude rounds to that magnitude,
and the search for a decimal inside it succeeds at the latest on its finest grid. Main statement:
the shortest decimal of a magnitude is read as that magnitude.
-/

set_option autoImplicit false

namespace GridStore

namespace RoundingInterval

variable {interval : RoundingInterval} {numerator denominator : Nat} {tie : Tie} {exponent : Int}
  {decimal : Decimal}

/-- The ends belong to the interval only when it is closed. -/
theorem bounds_of_contains (inside : interval.contains numerator denominator = true) :
    interval.lower * denominator ≤ numerator ∧ numerator ≤ interval.upper * denominator ∧
      (interval.lower * denominator = numerator ∨ numerator = interval.upper * denominator →
        interval.closed = true) := by
  unfold contains at inside
  split at inside
  · rename_i closed
    simp only [Bool.and_eq_true, decide_eq_true_eq] at inside
    exact ⟨inside.1, inside.2, fun _ => closed⟩
  · simp only [Bool.and_eq_true, decide_eq_true_eq] at inside
    exact ⟨Nat.le_of_lt inside.1, Nat.le_of_lt inside.2, by omega⟩

theorem contains_of_between (above : interval.lower * denominator < numerator)
    (below : numerator < interval.upper * denominator) :
    interval.contains numerator denominator = true := by
  unfold contains
  split
  · simp only [Bool.and_eq_true, decide_eq_true_eq]
    exact ⟨Nat.le_of_lt above, Nat.le_of_lt below⟩
  · simp only [Bool.and_eq_true, decide_eq_true_eq]
    exact ⟨above, below⟩

theorem on_grid_contains (found : interval.onGrid? tie exponent = some decimal) :
    decimal.exponent = exponent ∧
      interval.contains (decimal.digits * (4 * unitsPerOne * Nat.pow 10 exponent.toNat))
        (Nat.pow 10 (-exponent).toNat) = true := by
  unfold onGrid? at found
  dsimp only at found
  split at found
  · rename_i takesAbove
    rw [Bool.and_eq_true] at takesAbove
    cases found
    exact ⟨rfl, takesAbove.1⟩
  · split at found
    · rename_i takesBelow
      cases found
      exact ⟨rfl, takesBelow⟩
    · cases found

/-- A grid no coarser than the lower half of the interval has a point inside it. -/
theorem on_grid_found (inside : interval.value < interval.upper)
    (fine : interval.lower * Nat.pow 10 (-exponent).toNat +
      4 * unitsPerOne * Nat.pow 10 exponent.toNat ≤
        interval.value * Nat.pow 10 (-exponent).toNat) :
    ∃ decimal, interval.onGrid? tie exponent = some decimal := by
  have tens (exponent : Nat) : 0 < Nat.pow 10 exponent := Nat.pow_pos (by decide)
  have positive : 0 < 4 * unitsPerOne * Nat.pow 10 exponent.toNat :=
    Nat.mul_pos (Nat.mul_pos (by decide) unitsPerOne_positive) (tens _)
  have upper := Nat.mul_lt_mul_of_pos_right inside (tens (-exponent).toNat)
  unfold onGrid?
  dsimp only
  generalize 4 * unitsPerOne * Nat.pow 10 exponent.toNat = quarters at *
  generalize Nat.pow 10 (-exponent).toNat = scale at *
  have takesBelow : interval.contains (interval.value * scale / quarters * quarters) scale =
      true := by
    have divided := Nat.div_add_mod (interval.value * scale) quarters
    have remains := Nat.mod_lt (interval.value * scale) positive
    rw [Nat.mul_comm] at divided
    apply contains_of_between <;> omega
  rw [takesBelow]
  split
  · exact ⟨_, rfl⟩
  · rw [if_pos rfl]
    exact ⟨_, rfl⟩

end RoundingInterval

namespace Magnitude

section Rounding

variable {magnitude : Magnitude} {numerator denominator : Nat}

theorem spacing_positive (units : Nat) : 0 < spacing units := Nat.two_pow_pos _

theorem spacing_dvd (magnitude : Magnitude) : spacing magnitude.units ∣ magnitude.units :=
  Nat.dvd_of_mod_eq_zero magnitude.representable.2

theorem step_apart {step lower upper : Nat} (lowerSpaced : step ∣ lower)
    (upperSpaced : step ∣ upper) (below : lower < upper) : lower + step ≤ upper := by
  have same : lower ≡ upper [MOD step] := by
    rw [Nat.ModEq, Nat.mod_eq_zero_of_dvd lowerSpaced, Nat.mod_eq_zero_of_dvd upperSpaced]
  exact same.add_le_of_lt below

/-- The upper half of the interval never leaves the binade. -/
theorem spacing_above (nonzero : magnitude.units ≠ 0) (positive : 0 < denominator)
    (above : magnitude.units * denominator ≤ numerator)
    (below : 2 * numerator ≤ 2 * (magnitude.units * denominator) +
      spacing magnitude.units * denominator) :
    spacing (numerator / denominator) = spacing magnitude.units := by
  have step := Nat.mul_pos (spacing_positive magnitude.units) positive
  have bottom : 2 ^ magnitude.units.log2 ≤ magnitude.units := Nat.log2_self_le nonzero
  have top : magnitude.units + spacing magnitude.units ≤ 2 ^ (magnitude.units.log2 + 1) :=
    step_apart magnitude.spacing_dvd (Nat.pow_dvd_pow 2 (by omega)) Nat.lt_log2_self
  have least : magnitude.units ≤ numerator / denominator := (Nat.le_div_iff_mul_le positive).2 above
  have most : numerator / denominator < magnitude.units + spacing magnitude.units := by
    rw [Nat.div_lt_iff_lt_mul positive, Nat.add_mul]
    omega
  exact spacing_of_between (Nat.le_trans bottom least) (Nat.lt_of_lt_of_le most top)

/-- Neither does the lower half, unless the magnitude is the first of its binade. -/
theorem spacing_below (positive : 0 < denominator)
    (later : 2 ^ magnitude.units.log2 < magnitude.units)
    (above : 2 * (magnitude.units * denominator) ≤ 2 * numerator +
      spacing magnitude.units * denominator)
    (below : numerator < magnitude.units * denominator) :
    spacing (numerator / denominator) = spacing magnitude.units := by
  have bottom : 2 ^ magnitude.units.log2 + spacing magnitude.units ≤ magnitude.units :=
    step_apart (Nat.pow_dvd_pow 2 (Nat.sub_le _ _)) magnitude.spacing_dvd later
  have least : 2 ^ magnitude.units.log2 ≤ numerator / denominator := by
    rw [Nat.le_div_iff_mul_le positive]
    have product := Nat.mul_le_mul_right denominator bottom
    rw [Nat.add_mul] at product
    omega
  have most : numerator / denominator < magnitude.units :=
    (Nat.div_lt_iff_lt_mul positive).2 below
  exact spacing_of_between least (Nat.lt_trans most Nat.lt_log2_self)

/-- Among the smallest magnitudes all neighbours are one unit apart. -/
theorem spacing_small {units other : Nat} (small : units.log2 ≤ 52) (below : other ≤ units) :
    spacing other = spacing units := by
  have ordered : other.log2 ≤ 52 := by
    by_cases nothing : other = 0
    · rw [nothing]
      decide
    · refine Nat.le_of_lt_succ ((Nat.log2_lt nothing).2 (Nat.lt_of_le_of_lt below ?_))
      exact (Nat.log2_lt (by omega)).1 (Nat.lt_succ_of_le small)
  rw [spacing, spacing, Nat.sub_eq_zero_of_le small, Nat.sub_eq_zero_of_le ordered]

/-- Below a larger power of two the spacing is half as wide, and the power is an even multiple
of it. -/
theorem rounded_below_power (positive : 0 < denominator) (large : 52 < magnitude.units.log2)
    (power : magnitude.units = 2 ^ magnitude.units.log2)
    (above : 4 * (magnitude.units * denominator) ≤ 4 * numerator +
      spacing magnitude.units * denominator)
    (below : numerator < magnitude.units * denominator) :
    roundedUnits numerator denominator = magnitude.units := by
  obtain ⟨exponent, top⟩ : ∃ exponent, magnitude.units.log2 = exponent + 53 :=
    ⟨magnitude.units.log2 - 53, by omega⟩
  have wide : spacing magnitude.units = 2 * 2 ^ exponent := by
    rw [spacing, top, Nat.pow_eq, ← Nat.pow_succ']
    rfl
  rw [top] at power
  rw [wide, power] at above
  rw [power] at below ⊢
  have half : 2 ^ (exponent + 53) = 2 ^ (exponent + 52) + 2 ^ (exponent + 52) := by
    rw [← Nat.two_mul, ← Nat.pow_succ']
  have step : 2 ^ exponent ≤ 2 ^ (exponent + 52) := Nat.pow_le_pow_right (by decide) (by omega)
  have least : 2 ^ (exponent + 52) ≤ numerator / denominator := by
    rw [Nat.le_div_iff_mul_le positive]
    have product := Nat.mul_le_mul_right denominator step
    rw [half, Nat.add_mul] at above
    rw [Nat.mul_assoc] at above
    omega
  have most : numerator / denominator < 2 ^ (exponent + 53) :=
    (Nat.div_lt_iff_lt_mul positive).2 below
  have locally : spacing (numerator / denominator) = 2 ^ exponent := by
    rw [spacing_of_between least most, Nat.add_sub_cancel]
  have even : 2 ^ (exponent + 53) / 2 ^ exponent % 2 = 0 := by
    rw [Nat.pow_add, Nat.mul_div_cancel_left _ (Nat.two_pow_pos exponent)]
  rw [Nat.mul_assoc] at above
  exact rounded_units_nearest positive locally (Nat.pow_dvd_pow 2 (by omega)) (by omega) (by omega)
    fun _ => even

/-- Whatever lies in the rounding interval rounds to the magnitude. -/
theorem rounded_of_contains (nonzero : magnitude.units ≠ 0) (positive : 0 < denominator)
    (inside : magnitude.roundingInterval.contains (4 * numerator) denominator = true) :
    roundedUnits numerator denominator = magnitude.units := by
  have step := Nat.mul_pos (spacing_positive magnitude.units) positive
  obtain ⟨above, below, closed⟩ := RoundingInterval.bounds_of_contains inside
  simp only [roundingInterval, Nat.sub_mul, Nat.add_mul, Nat.mul_assoc, beq_iff_eq]
    at above below closed
  rcases Nat.lt_or_ge numerator (magnitude.units * denominator) with under | past
  · by_cases first : magnitude.units = Nat.pow 2 magnitude.units.log2 ∧ 52 < magnitude.units.log2
    · rw [if_pos first] at above
      exact rounded_below_power positive first.2 first.1 (by omega) under
    · rw [if_neg first, Nat.mul_assoc] at above closed
      have locally : spacing (numerator / denominator) = spacing magnitude.units := by
        rcases Nat.lt_or_ge 52 magnitude.units.log2 with large | small
        · have bottom : 2 ^ magnitude.units.log2 ≤ magnitude.units := Nat.log2_self_le nonzero
          have other : 2 ^ magnitude.units.log2 ≠ magnitude.units := fun same =>
            first ⟨same.symm, large⟩
          exact spacing_below positive (Nat.lt_of_le_of_ne bottom other) (by omega) under
        · exact spacing_small small (Nat.div_le_of_le_mul (by rw [Nat.mul_comm]; omega))
      refine rounded_units_nearest positive locally magnitude.spacing_dvd (by omega) (by omega) ?_
      intro tie
      exact closed (by omega)
  · have locally := spacing_above nonzero positive past (by omega)
    refine rounded_units_nearest positive locally magnitude.spacing_dvd (by omega) (by omega) ?_
    intro tie
    exact closed (by omega)

end Rounding

section Search

variable {twos tens : Nat}

/-- Ninety-three factors of two are fewer than twenty-eight factors of ten. -/
theorem two_pow_le_ten_pow (fewer : 28 * twos ≤ 93 * tens) : 2 ^ twos ≤ 10 ^ tens := by
  have many : 28 ≠ 0 := by decide
  apply (Nat.pow_le_pow_iff_left many).1
  calc (2 ^ twos) ^ 28 = 2 ^ (28 * twos) := by rw [← Nat.pow_mul, Nat.mul_comm]
    _ ≤ 2 ^ (93 * tens) := Nat.pow_le_pow_right (by decide) fewer
    _ = (2 ^ 93) ^ tens := Nat.pow_mul 2 93 tens
    _ ≤ (10 ^ 28) ^ tens := Nat.pow_le_pow_left (by decide) tens
    _ = (10 ^ tens) ^ 28 := by rw [← Nat.pow_mul, ← Nat.pow_mul, Nat.mul_comm]

theorem ten_pow_le_two_pow (fewer : 10 * tens ≤ 3 * twos) : 10 ^ tens ≤ 2 ^ twos := by
  have many : 3 ≠ 0 := by decide
  apply (Nat.pow_le_pow_iff_left many).1
  calc (10 ^ tens) ^ 3 = (10 ^ 3) ^ tens := by rw [← Nat.pow_mul, ← Nat.pow_mul, Nat.mul_comm]
    _ ≤ (2 ^ 10) ^ tens := Nat.pow_le_pow_left (by decide) tens
    _ = 2 ^ (10 * tens) := (Nat.pow_mul 2 10 tens).symm
    _ ≤ 2 ^ (3 * twos) := Nat.pow_le_pow_right (by decide) fewer
    _ = (2 ^ twos) ^ 3 := by rw [← Nat.pow_mul, Nat.mul_comm]

theorem log2_of_magnitude (magnitude : Magnitude) : magnitude.units.log2 < 2098 := by
  have bounded := magnitude.representable.1
  unfold unitsLimit at bounded
  by_cases nothing : magnitude.units = 0
  · rw [nothing]
    decide
  · generalize 2098 = limit at bounded ⊢
    exact (Nat.log2_lt nothing).2 bounded

/-- The last grid of the search is finer than the spacing of the magnitude. -/
theorem last_grid_fine (magnitude : Magnitude) :
    4 * unitsPerOne * 10 ^ (magnitude.topExponent - 23).toNat ≤
      spacing magnitude.units * 10 ^ (-(magnitude.topExponent - 23)).toNat := by
  have bounded := magnitude.log2_of_magnitude
  obtain ⟨quarters, many, power⟩ : ∃ quarters, quarters = 1076 ∧ 4 * unitsPerOne = 2 ^ quarters :=
    ⟨1076, rfl, by decide +kernel⟩
  rw [power, spacing, topExponent, Nat.pow_eq]
  generalize magnitude.units.log2 = top at bounded ⊢
  generalize scaled : ((top : Int) - 1072) * 30103 / 100000 + 1 - 23 = exponent
  rcases Int.lt_or_le exponent 0 with fine | coarse
  · have power : 2 ^ (quarters - (top - 52)) ≤ 10 ^ (-exponent).toNat :=
      two_pow_le_ten_pow (by omega)
    rw [Int.toNat_of_nonpos (Int.le_of_lt fine), Nat.pow_zero, Nat.mul_one]
    calc 2 ^ quarters ≤ 2 ^ (top - 52 + (quarters - (top - 52))) :=
          Nat.pow_le_pow_right (by decide) (by omega)
      _ = 2 ^ (top - 52) * 2 ^ (quarters - (top - 52)) := Nat.pow_add ..
      _ ≤ 2 ^ (top - 52) * 10 ^ (-exponent).toNat := Nat.mul_le_mul_left _ power
  · have power : 10 ^ exponent.toNat ≤ 2 ^ (top - 52 - quarters) := ten_pow_le_two_pow (by omega)
    rw [Int.toNat_of_nonpos (Int.neg_nonpos_of_nonneg coarse), Nat.pow_zero, Nat.mul_one]
    calc 2 ^ quarters * 10 ^ exponent.toNat ≤ 2 ^ quarters * 2 ^ (top - 52 - quarters) :=
          Nat.mul_le_mul_left _ power
      _ = 2 ^ (quarters + (top - 52 - quarters)) := (Nat.pow_add ..).symm
      _ ≤ 2 ^ (top - 52) := Nat.pow_le_pow_right (by decide) (by omega)

theorem last_grid_found (magnitude : Magnitude) (tie : Tie) (nonzero : magnitude.units ≠ 0) :
    ∃ decimal, magnitude.roundingInterval.onGrid? tie (magnitude.topExponent - 23) =
      some decimal := by
  have positive := spacing_positive magnitude.units
  have single : spacing magnitude.units ≤ magnitude.units :=
    Nat.le_of_dvd (Nat.pos_of_ne_zero nonzero) magnitude.spacing_dvd
  apply RoundingInterval.on_grid_found
  · simp only [roundingInterval]
    omega
  · have apart : magnitude.roundingInterval.lower + spacing magnitude.units ≤
        magnitude.roundingInterval.value := by
      simp only [roundingInterval]
      split <;> omega
    have product := Nat.mul_le_mul_right (10 ^ (-(magnitude.topExponent - 23)).toNat) apart
    rw [Nat.add_mul] at product
    exact Nat.le_trans (Nat.add_le_add_left magnitude.last_grid_fine _) product

/-- The search ends with a decimal inside the rounding interval. -/
theorem shortest_inside (magnitude : Magnitude) (tie : Tie) (nonzero : magnitude.units ≠ 0) :
    ∃ exponent, magnitude.roundingInterval.onGrid? tie exponent = some (magnitude.shortest tie) := by
  unfold shortest
  dsimp only
  rw [if_neg nonzero]
  cases found : (List.range 24).findSome? fun step : Nat =>
      magnitude.roundingInterval.onGrid? tie (magnitude.topExponent - step) with
  | none =>
      obtain ⟨decimal, last⟩ := magnitude.last_grid_found tie nonzero
      have missing := List.findSome?_eq_none_iff.1 found 23 (List.mem_range.2 (by decide))
      exact absurd (last.symm.trans missing) (Option.some_ne_none decimal)
  | some decimal =>
      obtain ⟨step, -, inside⟩ := List.exists_of_findSome?_eq_some found
      exact ⟨_, inside⟩

end Search

end Magnitude

namespace Number

/-- A magnitude is read back from its shortest decimal. -/
theorem of_decimal_shortest (negative : Bool) (magnitude : Magnitude) (tie : Tie) :
    ofDecimal negative (magnitude.shortest tie).digits (magnitude.shortest tie).exponent =
      .finite negative magnitude := by
  by_cases nothing : magnitude.units = 0
  · have zero : magnitude = .zero := by
      obtain ⟨units, representable⟩ := magnitude
      cases nothing
      rfl
    rw [zero]
    rfl
  · obtain ⟨exponent, found⟩ := magnitude.shortest_inside tie nothing
    obtain ⟨same, inside⟩ := RoundingInterval.on_grid_contains found
    rw [of_decimal_eq, same]
    have quarters : (magnitude.shortest tie).digits * (4 * unitsPerOne * Nat.pow 10 exponent.toNat) =
        4 * ((magnitude.shortest tie).digits * Nat.pow 10 exponent.toNat * unitsPerOne) := by
      rw [Nat.mul_assoc 4, Nat.mul_left_comm, Nat.mul_comm unitsPerOne, Nat.mul_assoc]
    rw [quarters] at inside
    exact of_units_rounded negative
      (Magnitude.rounded_of_contains nothing (Nat.pow_pos (by decide)) inside)

end Number

end GridStore
