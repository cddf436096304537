import GridStore.Address.Resolve

/-!
Whole numbers: naturals up to `2 ^ 53` are kept exactly, so sums and differences of them are
exact too. Nothing is assumed about larger naturals, which may be rounded; it is shown of them
that rounding never brings them below the bound, so that a small result was a small argument.
-/

set_option autoImplicit false

namespace GridStore

/-- Naturals up to here are numbers of their own. -/
def exactBound : Nat := 9007199254740992

theorem exactBound_is_power : Nat.pow 2 53 = exactBound := rfl

/-- Which power it is never matters below. -/
theorem unitsPerOne_is_power : ∃ exponent, unitsPerOne = Nat.pow 2 exponent := by
  unfold unitsPerOne
  generalize 1074 = exponent
  exact ⟨exponent, rfl⟩

theorem unitsPerOne_positive : 0 < unitsPerOne := by
  obtain ⟨exponent, power⟩ := unitsPerOne_is_power
  rw [power]
  exact Nat.two_pow_pos exponent

theorem exactBound_below_limit : exactBound * unitsPerOne < unitsLimit := by decide +kernel

theorem whole_representable {count : Nat} (small : count ≤ exactBound) :
    Representable (count * unitsPerOne) := by
  constructor
  · exact Nat.lt_of_le_of_lt (Nat.mul_le_mul_right unitsPerOne small) exactBound_below_limit
  · obtain ⟨exponent, power⟩ := unitsPerOne_is_power
    rw [power]
    exact Nat.mod_eq_zero_of_dvd (spacing_dvd_mul_pow small)

/-- Rounding stays at or above every power of two that it starts from, because the spacing of
a binade divides the power at its lower end. -/
theorem pow_le_rounded_units {exponent numerator denominator : Nat}
    (above : Nat.pow 2 exponent ≤ numerator / denominator) :
    Nat.pow 2 exponent ≤ roundedUnits numerator denominator := by
  unfold roundedUnits
  dsimp only
  rw [← Nat.div_div_eq_div_mul]
  generalize numerator / denominator = units at above ⊢
  have nonzero : units ≠ 0 := fun zero => by
    rw [zero] at above
    exact absurd (Nat.two_pow_pos exponent) (Nat.not_lt.2 above)
  have bottom : 2 ^ units.log2 ≤ units := Nat.log2_self_le nonzero
  have below : Nat.pow 2 exponent ≤ 2 ^ units.log2 :=
    Nat.pow_le_pow_right (by decide) ((Nat.le_log2 nonzero).2 above)
  have positive : 0 < spacing units := Nat.two_pow_pos _
  have divides : spacing units ∣ 2 ^ units.log2 := Nat.pow_dvd_pow 2 (Nat.sub_le _ _)
  have whole : 2 ^ units.log2 ≤ units / spacing units * spacing units := by
    calc 2 ^ units.log2 = 2 ^ units.log2 / spacing units * spacing units :=
          (Nat.div_mul_cancel divides).symm
      _ ≤ units / spacing units * spacing units :=
          Nat.mul_le_mul_right _ (Nat.div_le_div_right bottom)
  refine Nat.le_trans (Nat.le_trans below whole) (Nat.mul_le_mul_right _ ?_)
  split <;> omega

namespace Number

theorem of_units_rounded (negative : Bool) {numerator denominator : Nat} {magnitude : Magnitude}
    (rounded : roundedUnits numerator denominator = magnitude.units) :
    ofUnits negative numerator denominator = .finite negative magnitude := by
  rw [ofUnits, dif_pos (by rw [rounded]; exact magnitude.representable.1)]
  simp only [rounded]

theorem of_nat_eq {count : Nat} (small : count ≤ exactBound) :
    ofNat count = .finite false ⟨count * unitsPerOne, whole_representable small⟩ :=
  ofUnits_units false ⟨count * unitsPerOne, whole_representable small⟩

/-- Units become a positive number with at least every power of two of ones below them, or are too
many for a number. -/
theorem of_units_cases {exponent units : Nat} (above : Nat.pow 2 exponent * unitsPerOne ≤ units) :
    ofUnits false units 1 = .infinite false ∨
      ∃ magnitude, ofUnits false units 1 = .finite false magnitude ∧
        Nat.pow 2 exponent * unitsPerOne ≤ magnitude.units := by
  have scaled : Nat.pow 2 exponent * unitsPerOne ≤ roundedUnits units 1 := by
    obtain ⟨scale, power⟩ := unitsPerOne_is_power
    simp only [power, Nat.pow_eq, ← Nat.pow_add] at above ⊢
    apply pow_le_rounded_units
    rwa [Nat.div_one]
  unfold ofUnits
  split
  · exact Or.inr ⟨_, rfl, scaled⟩
  · exact Or.inl rfl

theorem of_nat_cases {exponent count : Nat} (above : Nat.pow 2 exponent ≤ count) :
    ofNat count = .infinite false ∨
      ∃ magnitude, ofNat count = .finite false magnitude ∧
        Nat.pow 2 exponent * unitsPerOne ≤ magnitude.units :=
  of_units_cases (Nat.mul_le_mul_right unitsPerOne above)

theorem is_nan_of_units (negative : Bool) (numerator denominator : Nat) :
    (ofUnits negative numerator denominator).isNaN = false := by
  unfold ofUnits
  split <;> rfl

theorem is_nan_of_nat (count : Nat) : (ofNat count).isNaN = false := is_nan_of_units _ _ _

theorem is_zero_of_nat {count : Nat} (positive : 0 < count) : (ofNat count).isZero = false := by
  have one : Nat.pow 2 0 ≤ count := positive
  rcases of_nat_cases one with infinite | ⟨magnitude, finite, units⟩
  · rw [infinite]
    rfl
  · have positiveUnits := unitsPerOne_positive
    have single : Nat.pow 2 0 = 1 := rfl
    rw [single, Nat.one_mul] at units
    rw [finite, isZero, beq_eq_false_iff_ne]
    omega

theorem is_finite_of_nat {count : Nat} (small : count ≤ exactBound) :
    (ofNat count).isFinite = true := by
  rw [of_nat_eq small]
  rfl

theorem trunc_of_nat {count : Nat} (small : count ≤ exactBound) :
    (ofNat count).trunc = ofNat count := by
  rw [of_nat_eq small, trunc, wholePart, Nat.mul_div_cancel _ unitsPerOne_positive]
  exact ofUnits_units false ⟨count * unitsPerOne, whole_representable small⟩

theorem to_nat_of_nat {count : Nat} (small : count ≤ exactBound) : (ofNat count).toNat = count := by
  rw [of_nat_eq small, toNat, wholePart, Nat.mul_div_cancel _ unitsPerOne_positive]

theorem position_of_units_negative (numerator denominator : Nat) :
    (ofUnits true numerator denominator).position ≤ 0 := by
  unfold ofUnits
  split
  · simp only [position, if_true]
    omega
  · simp only [position, if_true]
    omega

theorem compare_finite {left right : Number} (leftFinite : left.isFinite = true)
    (rightFinite : right.isFinite = true) :
    left.compare right = some (Ord.compare left.position right.position) := by
  unfold compare
  rw [if_neg]
  cases left <;> cases right <;> simp_all [isNaN, isFinite]

theorem add_of_positions {left right : Magnitude} {negative : Bool} {count : Nat}
    (total : position (.finite false left) + position (.finite negative right) =
      (count * unitsPerOne : Nat)) :
    add (.finite false left) (.finite negative right) = ofNat count := by
  rw [add, total]
  by_cases nothing : count = 0
  · rw [nothing, of_nat_eq (Nat.zero_le _)]
    simp only [Nat.zero_mul, Bool.false_and]
    rfl
  · have positive : 0 < count * unitsPerOne :=
      Nat.mul_pos (Nat.pos_of_ne_zero nothing) unitsPerOne_positive
    rw [if_neg (by omega), Int.natAbs_natCast, decide_eq_false (by omega)]
    rfl

theorem add_of_nat {left right : Nat} (leftSmall : left ≤ exactBound)
    (rightSmall : right ≤ exactBound) : (ofNat left).add (ofNat right) = ofNat (left + right) := by
  rw [of_nat_eq leftSmall, of_nat_eq rightSmall]
  apply add_of_positions
  simp only [position, Bool.false_eq_true, if_false]
  rw [Nat.add_mul]
  rfl

theorem sub_of_nat {left right : Nat} (leftSmall : left ≤ exactBound) (smaller : right ≤ left) :
    (ofNat left).sub (ofNat right) = ofNat (left - right) := by
  rw [sub, of_nat_eq leftSmall, of_nat_eq (Nat.le_trans smaller leftSmall), neg]
  apply add_of_positions
  have ordered := Nat.mul_le_mul_right unitsPerOne smaller
  simp only [position, Bool.false_eq_true, Bool.not_false, if_true, if_false]
  rw [Nat.sub_mul]
  omega

end Number

namespace Address

theorem is_no_size_infinite : isNoSize (.infinite false) = true := by decide +kernel

theorem size_bound_position :
    (Number.ofNat Size.bound).position = (Size.bound * unitsPerOne : Nat) ∧
      (Number.ofNat Size.bound).isFinite = true := by decide +kernel

theorem zero_position : (Number.zero false).position = 0 := by decide +kernel

theorem compare_zero_of_nat (units : Nat) : Ord.compare (units : Int) 0 ≠ .lt := fun less =>
  absurd (Std.compare_eq_lt.1 less) (by omega)

theorem is_no_size_of_units {magnitude : Magnitude}
    (below : magnitude.units < Size.bound * unitsPerOne) :
    isNoSize (.finite false magnitude) = false := by
  have finite : (Number.finite false magnitude).isFinite = true := rfl
  have position : (Number.finite false magnitude).position = (magnitude.units : Nat) := rfl
  have upper : Ord.compare (magnitude.units : Int) (Size.bound * unitsPerOne : Nat) = .lt :=
    Std.compare_eq_lt.2 (Int.ofNat_lt.2 below)
  have lower := compare_zero_of_nat magnitude.units
  have zeroFinite : (Number.zero false).isFinite = true := rfl
  have fromZero := Number.compare_finite finite zeroFinite
  have fromBound := Number.compare_finite finite size_bound_position.2
  rw [position, zero_position] at fromZero
  rw [position, size_bound_position.1, upper] at fromBound
  rw [isNoSize, fromZero, fromBound, Option.any_some, Bool.or_eq_false_iff]
  exact ⟨beq_eq_false_iff_ne.2 fun same => lower (Option.some.inj same), rfl⟩

theorem is_no_size_of_nat {count : Nat} (small : count ≤ exactBound) :
    isNoSize (.ofNat count) = false := by
  rw [Number.of_nat_eq small]
  exact is_no_size_of_units
    (Nat.mul_lt_mul_of_pos_right (Nat.lt_of_le_of_lt small (by decide)) unitsPerOne_positive)

theorem is_no_size_of_negative {value : Number} (finite : value.isFinite = true)
    (negative : value.position < 0) : isNoSize value = true := by
  have zeroFinite : (Number.zero false).isFinite = true := rfl
  rw [isNoSize, Number.compare_finite finite zeroFinite, zero_position,
    Std.compare_eq_lt.2 negative]
  rfl

theorem is_no_size_negative_infinite : isNoSize (.infinite true) = true := by decide +kernel

/-- A number that is not positive is refused as a coordinate, either as zero or as no size. -/
theorem refused_of_position {value : Number} (finite : value.isFinite = true)
    (bounded : value.position ≤ 0) :
    value.trunc.isZero = true ∨ isNoSize value.trunc = true := by
  cases value with
  | nan => cases finite
  | infinite negative => cases finite
  | finite negative magnitude =>
      cases negative with
      | false =>
          have nothing : magnitude.units = 0 := by
            simp only [Number.position, Bool.false_eq_true, if_false] at bounded
            omega
          refine Or.inl ?_
          rw [Number.trunc, Number.wholePart, nothing, Nat.zero_div, Nat.zero_mul]
          exact congrArg Number.isZero (Number.ofUnits_units false .zero)
      | true =>
          simp only [Number.trunc, Number.ofUnits]
          split
          · rename_i inside
            by_cases nothing : roundedUnits (Number.wholePart magnitude * unitsPerOne) 1 = 0
            · exact Or.inl (beq_iff_eq.2 nothing)
            · refine Or.inr (is_no_size_of_negative rfl ?_)
              simp only [Number.position, if_true]
              omega
          · exact Or.inr is_no_size_negative_infinite

theorem of_nat_at_least {left right : Nat} (leftSmall : left ≤ exactBound)
    (notLess : left ≤ right) :
    Number.ofNat right = .infinite false ∨
      ∃ magnitude, Number.ofNat right = .finite false magnitude ∧
        left * unitsPerOne ≤ magnitude.units := by
  by_cases rightSmall : right ≤ exactBound
  · have ordered : left * unitsPerOne ≤ right * unitsPerOne := Nat.mul_le_mul_right _ notLess
    exact Or.inr ⟨_, Number.of_nat_eq rightSmall, ordered⟩
  · have large : Nat.pow 2 53 ≤ right := Nat.le_of_lt (Nat.lt_of_not_le rightSmall)
    have leftBelow : left ≤ Nat.pow 2 53 := leftSmall
    refine (Number.of_nat_cases large).imp_right ?_
    rintro ⟨magnitude, finite, units⟩
    exact ⟨magnitude, finite, Nat.le_trans (Nat.mul_le_mul_right _ leftBelow) units⟩

/-- A difference that is not positive is no coordinate, however large its subtrahend is. -/
theorem refused_difference {left right : Nat} (leftSmall : left ≤ exactBound)
    (notLess : left ≤ right)
    (finite : ((Number.ofNat left).sub (.ofNat right)).isFinite = true) :
    ((Number.ofNat left).sub (.ofNat right)).trunc.isZero = true ∨
      isNoSize ((Number.ofNat left).sub (.ofNat right)).trunc = true := by
  refine refused_of_position finite ?_
  rw [Number.of_nat_eq leftSmall] at finite ⊢
  rcases of_nat_at_least leftSmall notLess with infinite | ⟨magnitude, same, units⟩
  · rw [infinite] at finite
    cases finite
  · have total : Number.position (.finite false ⟨left * unitsPerOne, whole_representable leftSmall⟩)
        + Number.position (.finite (!false) magnitude) ≤ 0 := by
      simp only [Number.position, Bool.false_eq_true, Bool.not_false, if_true, if_false]
      omega
    rw [same, Number.sub, Number.neg, Number.add]
    generalize Number.position _ + Number.position _ = sum at total ⊢
    by_cases nothing : sum = 0
    · rw [if_pos nothing]
      exact Int.le_of_eq zero_position
    · have negative : sum < 0 := by omega
      rw [if_neg nothing, decide_eq_true negative]
      exact Number.position_of_units_negative _ _

end Address

end GridStore
