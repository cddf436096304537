import GridStore.Number.Decimal
import GridStore.Proofs.Number.Whole
import Mathlib.Algebra.Ring.Nat

/-!
Rounding to the nearest number. A multiple of the local spacing that is within half of it is the
one that rounding takes, if it is even whenever it is exactly half of it away. Decimals far outside
the range of numbers round as they are settled, to zero or to infinity.
-/

set_option autoImplicit false

namespace GridStore

section Nearest

variable {numerator denominator step : Nat}

/-- Of two neighbouring multiples the nearer one, or the even one. -/
theorem nearest_multiple {count width : Nat} (positive : 0 < width)
    (below : 2 * (count * width) ≤ 2 * numerator + width)
    (above : 2 * numerator ≤ 2 * (count * width) + width)
    (ties : 2 * (count * width) = 2 * numerator + width ∨
      2 * numerator = 2 * (count * width) + width → count % 2 = 0) :
    (if width < 2 * (numerator % width) ∨
        (2 * (numerator % width) = width ∧ numerator / width % 2 = 1)
      then numerator / width + 1 else numerator / width) = count := by
  have divided := Nat.div_add_mod numerator width
  have remains := Nat.mod_lt numerator positive
  generalize numerator / width = quotient at divided ⊢
  generalize numerator % width = remainder at divided remains ⊢
  rw [Nat.mul_comm] at divided
  have notAfter : count ≤ quotient + 1 := by
    refine Nat.le_of_not_lt fun far => ?_
    have product := Nat.mul_le_mul_right width far
    rw [Nat.succ_mul, Nat.succ_mul] at product
    omega
  have notBefore : quotient ≤ count := by
    refine Nat.le_of_not_lt fun far => ?_
    have product := Nat.mul_le_mul_right width far
    rw [Nat.succ_mul] at product
    omega
  obtain rfl | rfl : count = quotient ∨ count = quotient + 1 := by omega
  · rw [if_neg]
    intro roundsUp
    have tie : 2 * numerator = 2 * (count * width) + width := by omega
    have even := ties (Or.inr tie)
    omega
  · rw [Nat.add_mul] at below ties
    rw [if_pos]
    by_cases tie : 2 * remainder = width
    · have even := ties (Or.inl (by omega))
      omega
    · omega

theorem rounded_units_nearest {units : Nat} (positive : 0 < denominator)
    (locally : spacing (numerator / denominator) = step) (spaced : step ∣ units)
    (below : 2 * (units * denominator) ≤ 2 * numerator + step * denominator)
    (above : 2 * numerator ≤ 2 * (units * denominator) + step * denominator)
    (ties : 2 * (units * denominator) = 2 * numerator + step * denominator ∨
      2 * numerator = 2 * (units * denominator) + step * denominator → units / step % 2 = 0) :
    roundedUnits numerator denominator = units := by
  have width : 0 < denominator * step := by
    rw [← locally]
    exact Nat.mul_pos positive (Nat.two_pow_pos _)
  have multiple : units * denominator = units / step * (denominator * step) := by
    rw [Nat.mul_left_comm, Nat.div_mul_cancel spaced, Nat.mul_comm]
  rw [multiple, Nat.mul_comm step] at below above ties
  unfold roundedUnits
  dsimp only
  rw [locally, nearest_multiple width below above ties, Nat.div_mul_cancel spaced]

end Nearest

theorem spacing_of_between {exponent units : Nat} (above : 2 ^ exponent ≤ units)
    (below : units < 2 ^ (exponent + 1)) : spacing units = 2 ^ (exponent - 52) := by
  have nonzero : units ≠ 0 := Nat.ne_of_gt (Nat.lt_of_lt_of_le (Nat.two_pow_pos exponent) above)
  have exact : units.log2 = exponent := (Nat.log2_eq_iff nonzero).2 ⟨above, below⟩
  rw [spacing, exact]
  rfl

theorem rounded_units_tiny {numerator denominator : Nat} (tiny : 2 * numerator < denominator) :
    roundedUnits numerator denominator = 0 := by
  have smallest : spacing (numerator / denominator) = 1 := by
    rw [Nat.div_eq_of_lt (by omega)]
    decide
  exact rounded_units_nearest (by omega) smallest (Nat.dvd_zero 1) (by omega) (by omega) (by omega)

theorem unitsLimit_is_power : ∃ exponent, unitsLimit = Nat.pow 2 exponent := by
  unfold unitsLimit
  generalize 2098 = exponent
  exact ⟨exponent, rfl⟩

namespace Number

theorem of_units_past_limit (negative : Bool) {numerator denominator : Nat}
    (past : unitsLimit ≤ numerator / denominator) :
    ofUnits negative numerator denominator = .infinite negative := by
  have rounded : unitsLimit ≤ roundedUnits numerator denominator := by
    obtain ⟨exponent, power⟩ := unitsLimit_is_power
    rw [power] at past ⊢
    exact pow_le_rounded_units past
  rw [ofUnits, dif_neg (Nat.not_lt.2 rounded)]

section Decimal

variable {digits : Nat} {exponent : Int}

/-- A natural with so many digits is at least the power of ten with one digit more. -/
theorem ten_pow_le_of_length (nonzero : digits ≠ 0) :
    10 ^ ((Nat.toDigits 10 digits).length - 1) ≤ digits := by
  by_cases single : (Nat.toDigits 10 digits).length - 1 = 0
  · rw [single, Nat.pow_zero]
    exact Nat.pos_of_ne_zero nonzero
  · refine Nat.le_of_not_lt fun below => ?_
    have shorter := (Nat.length_toDigits_le_iff (by decide) (Nat.pos_of_ne_zero single)).2 below
    omega

theorem lt_ten_pow_length (digits : Nat) : digits < 10 ^ (Nat.toDigits 10 digits).length :=
  (Nat.length_toDigits_le_iff (by decide) Nat.length_toDigits_pos).1 (Nat.le_refl _)

theorem of_decimal_huge (negative : Bool) (nonzero : digits ≠ 0)
    (huge : 400 < exponent + ((Nat.toDigits 10 digits).length : Int)) :
    ofUnits negative (digits * Nat.pow 10 exponent.toNat * unitsPerOne)
      (Nat.pow 10 (-exponent).toNat) = .infinite negative := by
  have positive : 0 < (Nat.toDigits 10 digits).length := Nat.length_toDigits_pos
  obtain ⟨places, many, limit⟩ : ∃ places, places = 400 ∧ unitsLimit ≤ 10 ^ places * unitsPerOne :=
    ⟨400, rfl, by decide +kernel⟩
  have size : places + (-exponent).toNat ≤
      (Nat.toDigits 10 digits).length - 1 + exponent.toNat := by omega
  apply of_units_past_limit
  simp only [Nat.pow_eq]
  rw [Nat.le_div_iff_mul_le (Nat.pow_pos (by decide))]
  calc unitsLimit * 10 ^ (-exponent).toNat
      ≤ 10 ^ places * unitsPerOne * 10 ^ (-exponent).toNat := Nat.mul_le_mul_right _ limit
    _ = 10 ^ (places + (-exponent).toNat) * unitsPerOne := by rw [Nat.pow_add, Nat.mul_right_comm]
    _ ≤ 10 ^ ((Nat.toDigits 10 digits).length - 1 + exponent.toNat) * unitsPerOne :=
        Nat.mul_le_mul_right _ (Nat.pow_le_pow_right (by decide) size)
    _ ≤ digits * 10 ^ exponent.toNat * unitsPerOne := by
        rw [Nat.pow_add]
        exact Nat.mul_le_mul_right _ (Nat.mul_le_mul_right _ (ten_pow_le_of_length nonzero))

theorem of_decimal_tiny (negative : Bool)
    (tiny : exponent + ((Nat.toDigits 10 digits).length : Int) < -400) :
    ofUnits negative (digits * Nat.pow 10 exponent.toNat * unitsPerOne)
      (Nat.pow 10 (-exponent).toNat) = .zero negative := by
  obtain ⟨places, many, half⟩ : ∃ places, places = 401 ∧ 2 * unitsPerOne ≤ 10 ^ places :=
    ⟨401, rfl, by decide +kernel⟩
  have size : (Nat.toDigits 10 digits).length + exponent.toNat + places ≤
      (-exponent).toNat := by omega
  apply of_units_rounded
  apply rounded_units_tiny
  simp only [Nat.pow_eq]
  calc 2 * (digits * 10 ^ exponent.toNat * unitsPerOne)
      = digits * 10 ^ exponent.toNat * (2 * unitsPerOne) := by rw [Nat.mul_left_comm]
    _ ≤ digits * 10 ^ exponent.toNat * 10 ^ places := Nat.mul_le_mul_left _ half
    _ < 10 ^ (Nat.toDigits 10 digits).length * 10 ^ exponent.toNat * 10 ^ places := by
        have tens (exponent : Nat) : 0 < 10 ^ exponent := Nat.pow_pos (by decide)
        exact Nat.mul_lt_mul_of_pos_right
          (Nat.mul_lt_mul_of_pos_right (lt_ten_pow_length digits) (tens _)) (tens _)
    _ = 10 ^ ((Nat.toDigits 10 digits).length + exponent.toNat + places) := by
        rw [Nat.pow_add, Nat.pow_add]
    _ ≤ 10 ^ (-exponent).toNat := Nat.pow_le_pow_right (by decide) size

/-- The shortcuts for extreme exponents come to the same as the power would. -/
theorem of_decimal_eq (negative : Bool) (digits : Nat) (exponent : Int) :
    ofDecimal negative digits exponent =
      ofUnits negative (digits * Nat.pow 10 exponent.toNat * unitsPerOne)
        (Nat.pow 10 (-exponent).toNat) := by
  unfold ofDecimal
  dsimp only
  by_cases nothing : digits = 0
  · have vanishes : roundedUnits (0 * Nat.pow 10 exponent.toNat * unitsPerOne)
        (Nat.pow 10 (-exponent).toNat) = 0 := by
      apply rounded_units_tiny
      rw [Nat.zero_mul, Nat.zero_mul]
      exact Nat.pow_pos (by decide)
    rw [if_pos nothing, nothing]
    exact (of_units_rounded negative vanishes).symm
  · rw [if_neg nothing]
    by_cases huge : 400 < exponent + ((Nat.toDigits 10 digits).length : Int)
    · rw [if_pos huge, of_decimal_huge negative nothing huge]
    · rw [if_neg huge]
      by_cases tiny : exponent + ((Nat.toDigits 10 digits).length : Int) < -400
      · rw [if_pos tiny, of_decimal_tiny negative tiny]
      · rw [if_neg tiny]

theorem is_nan_of_decimal (negative : Bool) (digits : Nat) (exponent : Int) :
    (ofDecimal negative digits exponent).isNaN = false := by
  rw [of_decimal_eq]
  exact is_nan_of_units _ _ _

end Decimal

end Number

end GridStore
