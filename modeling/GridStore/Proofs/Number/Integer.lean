import GridStore.Proofs.Number.Whole

/-!
Integers up to `2 ^ 53` on either side of zero: numbers keep them exactly, and sums, differences and
products of them too as long as the result is one of them. A zero may have either sign, so a number
stands for an integer by its position and not by being a certain number.
-/

set_option autoImplicit false

namespace GridStore

/-- Multiplying and dividing by the same natural does not round. -/
theorem rounded_units_scaled {units scale : Nat} (representable : Representable units)
    (positive : 0 < scale) : roundedUnits (units * scale) scale = units := by
  have onGrid := representable.2
  have exact : units * scale % (scale * spacing units) = 0 := by
    rw [Nat.mul_comm units, Nat.mul_mod_mul_left, onGrid, Nat.mul_zero]
  have width : 0 < scale * spacing units := Nat.mul_pos positive (Nat.two_pow_pos _)
  simp only [roundedUnits, Nat.mul_div_cancel _ positive, exact]
  rw [if_neg (by omega), Nat.mul_comm units, Nat.mul_div_mul_left _ _ positive]
  exact Nat.div_mul_cancel (Nat.dvd_of_mod_eq_zero onGrid)

namespace Number

/-- The number lies where the integer does. -/
structure IsInteger (value : Number) (integer : Int) : Prop where
  finite : value.isFinite = true
  position : value.position = integer * unitsPerOne

theorem of_units_scaled (negative : Bool) (magnitude : Magnitude) {scale : Nat}
    (positive : 0 < scale) :
    ofUnits negative (magnitude.units * scale) scale = .finite negative magnitude :=
  of_units_rounded negative (rounded_units_scaled magnitude.representable positive)

theorem IsInteger.units {negative : Bool} {magnitude : Magnitude} {integer : Int}
    (stands : IsInteger (.finite negative magnitude) integer) :
    magnitude.units = integer.natAbs * unitsPerOne := by
  have located := congrArg Int.natAbs stands.position
  rw [Int.natAbs_mul, Int.natAbs_natCast] at located
  rw [← located]
  cases negative <;> simp [Number.position]

theorem integer_of_magnitude {negative : Bool} {magnitude : Magnitude} {integer : Int}
    (units : magnitude.units = integer.natAbs * unitsPerOne)
    (sign : if negative then integer ≤ 0 else 0 ≤ integer) :
    IsInteger (.finite negative magnitude) integer := by
  refine ⟨rfl, ?_⟩
  cases negative with
  | true =>
      have size : ((integer.natAbs : Nat) : Int) = -integer := Int.ofNat_natAbs_of_nonpos sign
      simp only [position, units, if_true, Int.natCast_mul, size, Int.neg_mul, Int.neg_neg]
  | false =>
      have size : ((integer.natAbs : Nat) : Int) = integer := Int.natAbs_of_nonneg sign
      simp only [position, units, Bool.false_eq_true, if_false, Int.natCast_mul, size]

theorem sign_of_integer {negative : Bool} {magnitude : Magnitude} {integer : Int}
    (stands : IsInteger (.finite negative magnitude) integer) :
    if negative then integer ≤ 0 else 0 ≤ integer := by
  have positive : (0 : Int) < unitsPerOne := Int.natCast_pos.2 unitsPerOne_positive
  have located := stands.position
  cases negative with
  | true =>
      refine Int.not_lt.1 fun above => ?_
      have product := Int.mul_pos above positive
      simp only [position, if_true] at located
      omega
  | false =>
      refine Int.not_lt.1 fun below => ?_
      have product := Int.mul_neg_of_neg_of_pos below positive
      simp only [position, Bool.false_eq_true, if_false] at located
      omega

theorem integer_of_nat {count : Nat} (small : count ≤ exactBound) :
    IsInteger (.ofNat count) count := by
  rw [of_nat_eq small]
  exact integer_of_magnitude rfl (Int.natCast_nonneg count)

theorem integer_neg {value : Number} {integer : Int} (stands : value.IsInteger integer) :
    value.neg.IsInteger (-integer) := by
  cases value with
  | nan => cases stands.finite
  | infinite negative => cases stands.finite
  | finite negative magnitude =>
      apply integer_of_magnitude
      · rw [stands.units, Int.natAbs_neg]
      · have sign := sign_of_integer stands
        cases negative with
        | true => exact Int.neg_nonneg_of_nonpos sign
        | false => exact Int.neg_nonpos_of_nonneg sign

theorem zero_is_integer (negative : Bool) : (zero negative).IsInteger 0 := by
  refine ⟨rfl, ?_⟩
  rw [Int.zero_mul]
  cases negative <;> rfl

theorem integer_of_units {negative : Bool} {integer : Int} (small : integer.natAbs ≤ exactBound)
    (sign : if negative then integer ≤ 0 else 0 ≤ integer) :
    (ofUnits negative (integer.natAbs * unitsPerOne) 1).IsInteger integer := by
  rw [ofUnits_units negative ⟨_, whole_representable small⟩]
  exact integer_of_magnitude rfl sign

theorem integer_add {left right : Number} {first second : Int} (leftStands : left.IsInteger first)
    (rightStands : right.IsInteger second) (small : (first + second).natAbs ≤ exactBound) :
    (left.add right).IsInteger (first + second) := by
  cases left with
  | nan => cases leftStands.finite
  | infinite negative => cases leftStands.finite
  | finite leftSign leftSize =>
      cases right with
      | nan => cases rightStands.finite
      | infinite negative => cases rightStands.finite
      | finite rightSign rightSize =>
          have positive : (0 : Int) < unitsPerOne := Int.natCast_pos.2 unitsPerOne_positive
          have total : position (.finite leftSign leftSize) +
              position (.finite rightSign rightSize) = (first + second) * unitsPerOne := by
            rw [leftStands.position, rightStands.position, Int.add_mul]
          rw [add, total]
          generalize first + second = sum at small
          by_cases nothing : sum * unitsPerOne = 0
          · have zero : sum = 0 := (Int.mul_eq_zero.1 nothing).resolve_right (Int.ne_of_gt positive)
            rw [if_pos nothing, zero]
            exact zero_is_integer _
          · rw [if_neg nothing, Int.natAbs_mul, Int.natAbs_natCast]
            apply integer_of_units small
            by_cases below : sum * unitsPerOne < 0
            · rw [decide_eq_true below, if_pos rfl]
              refine Int.not_lt.1 fun above => ?_
              have product := Int.mul_pos above positive
              omega
            · rw [decide_eq_false below, if_neg Bool.false_ne_true]
              refine Int.not_lt.1 fun under => below ?_
              exact Int.mul_neg_of_neg_of_pos under positive

theorem integer_sub {left right : Number} {first second : Int} (leftStands : left.IsInteger first)
    (rightStands : right.IsInteger second) (small : (first - second).natAbs ≤ exactBound) :
    (left.sub right).IsInteger (first - second) :=
  integer_add leftStands (integer_neg rightStands) small

theorem sign_of_product {left right : Bool} {first second : Int}
    (leftSign : if left then first ≤ 0 else 0 ≤ first)
    (rightSign : if right then second ≤ 0 else 0 ≤ second) :
    if (left ^^ right) then first * second ≤ 0 else 0 ≤ first * second := by
  cases left with
  | true =>
      cases right with
      | true => exact Int.mul_nonneg_of_nonpos_of_nonpos leftSign rightSign
      | false => exact Int.mul_nonpos_of_nonpos_of_nonneg leftSign rightSign
  | false =>
      cases right with
      | true => exact Int.mul_nonpos_of_nonneg_of_nonpos leftSign rightSign
      | false => exact Int.mul_nonneg leftSign rightSign

theorem integer_mul {left right : Number} {first second : Int} (leftStands : left.IsInteger first)
    (rightStands : right.IsInteger second) (small : (first * second).natAbs ≤ exactBound) :
    (left.mul right).IsInteger (first * second) := by
  cases left with
  | nan => cases leftStands.finite
  | infinite negative => cases leftStands.finite
  | finite leftSign leftSize =>
      cases right with
      | nan => cases rightStands.finite
      | infinite negative => cases rightStands.finite
      | finite rightSign rightSize =>
          have units : leftSize.units * rightSize.units =
              (first * second).natAbs * unitsPerOne * unitsPerOne := by
            rw [leftStands.units, rightStands.units, Int.natAbs_mul, Nat.mul_mul_mul_comm,
              ← Nat.mul_assoc]
          rw [mul, units, of_units_scaled _ ⟨_, whole_representable small⟩ unitsPerOne_positive]
          exact integer_of_magnitude rfl
            (sign_of_product (sign_of_integer leftStands) (sign_of_integer rightStands))

theorem trunc_integer {value : Number} {integer : Int} (stands : value.IsInteger integer) :
    value.trunc = value := by
  cases value with
  | nan => rfl
  | infinite negative => rfl
  | finite negative magnitude =>
      have whole : wholePart magnitude * unitsPerOne = magnitude.units := by
        rw [wholePart, stands.units, Nat.mul_div_cancel _ unitsPerOne_positive]
      rw [trunc, whole, ofUnits_units]

theorem is_zero_integer {value : Number} {integer : Int} (stands : value.IsInteger integer) :
    value.isZero = decide (integer = 0) := by
  cases value with
  | nan => cases stands.finite
  | infinite negative => cases stands.finite
  | finite negative magnitude =>
      have positive := unitsPerOne_positive
      rw [isZero, stands.units, Bool.eq_iff_iff, beq_iff_eq, decide_eq_true_iff, Nat.mul_eq_zero]
      omega

theorem eq_of_positive {value : Number} {integer : Int} (stands : value.IsInteger integer)
    (positive : 1 ≤ integer) :
    value = .ofNat integer.toNat := by
  have same : integer.natAbs = integer.toNat := by omega
  cases value with
  | nan => cases stands.finite
  | infinite negative => cases stands.finite
  | finite negative magnitude =>
      have sign := sign_of_integer stands
      cases negative with
      | true => exact absurd sign (by simp; omega)
      | false => rw [← ofUnits_units false magnitude, stands.units, same, ofNat]

end Number

namespace Address

theorem is_no_size_integer {value : Number} {integer : Int} (stands : value.IsInteger integer)
    (nonzero : integer ≠ 0) (small : integer.natAbs ≤ exactBound) :
    isNoSize value = decide (integer < 0) := by
  by_cases negative : integer < 0
  · have below : value.position < 0 := by
      rw [stands.position]
      exact Int.mul_neg_of_neg_of_pos negative (Int.natCast_pos.2 unitsPerOne_positive)
    rw [is_no_size_of_negative stands.finite below, decide_eq_true negative]
  · rw [Number.eq_of_positive stands (by omega), is_no_size_of_nat (by omega),
      decide_eq_false negative]

end Address

end GridStore
