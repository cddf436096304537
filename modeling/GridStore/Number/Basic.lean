/-!
Binary floating-point numbers of 64 bits, held exactly.

A finite number is a sign and a magnitude counted in units of `2 ^ -1074`, the smallest
positive number. Sums, products, remainders and comparisons are then exact arithmetic on
naturals, followed by one rounding to the 53 significant bits that a number keeps.
Main statement: rounding always lands on a representable magnitude.
-/

set_option autoImplicit false

namespace GridStore

/-- How many units of the smallest positive number make one. -/
def unitsPerOne : Nat := Nat.pow 2 1074

/-- Magnitudes from here on round to infinity: `2 ^ 1024`, in units. -/
def unitsLimit : Nat := Nat.pow 2 2098

/-- Distance between neighbouring magnitudes at `units`, which leaves 53 significant bits. -/
def spacing (units : Nat) : Nat := Nat.pow 2 (units.log2 - 52)

/-- A magnitude below the limit that lies on the grid of its own binade. -/
def Representable (units : Nat) : Prop := units < unitsLimit ∧ units % spacing units = 0

instance (units : Nat) : Decidable (Representable units) :=
  inferInstanceAs (Decidable (units < unitsLimit ∧ units % spacing units = 0))

structure Magnitude where
  units : Nat
  representable : Representable units
deriving DecidableEq

/-- A 64-bit floating-point number. Zero has a sign, and nothing equals `nan`, so equality of
this type is not equality of numbers: that is `Number.equals`. -/
inductive Number where
  | nan
  | infinite (negative : Bool)
  | finite (negative : Bool) (magnitude : Magnitude)
deriving DecidableEq

theorem unitsLimit_pos : 0 < unitsLimit := by
  unfold unitsLimit
  generalize 2098 = exponent
  exact Nat.two_pow_pos exponent

theorem representable_zero : Representable 0 := ⟨unitsLimit_pos, Nat.zero_mod _⟩

def Magnitude.zero : Magnitude := ⟨0, representable_zero⟩

/-- The multiple of the local spacing nearest to `numerator / denominator`. Of two equally near
multiples the even one is taken. -/
def roundedUnits (numerator denominator : Nat) : Nat :=
  let step := spacing (numerator / denominator)
  let width := denominator * step
  let quotient := numerator / width
  let remainder := numerator % width
  let roundsUp := width < 2 * remainder ∨ (2 * remainder = width ∧ quotient % 2 = 1)
  (if roundsUp then quotient + 1 else quotient) * step

theorem spacing_dvd_mul_pow {count exponent : Nat} (bound : count ≤ 9007199254740992) :
    spacing (count * Nat.pow 2 exponent) ∣ count * Nat.pow 2 exponent := by
  simp only [spacing, Nat.pow_eq]
  replace bound : count ≤ 2 ^ 53 := bound
  rcases Nat.lt_or_eq_of_le bound with small | rfl
  · refine Nat.dvd_mul_left_of_dvd (Nat.pow_dvd_pow 2 ?_) count
    by_cases zero : count * 2 ^ exponent = 0
    · simp [zero]
    · have below : count * 2 ^ exponent < 2 ^ (53 + exponent) := by
        rw [Nat.pow_add]
        exact Nat.mul_lt_mul_of_pos_right small (Nat.two_pow_pos exponent)
      have := (Nat.log2_lt zero).2 below
      omega
  · rw [← Nat.pow_add, Nat.log2_two_pow]
    exact Nat.pow_dvd_pow 2 (by omega)

theorem quotient_le_of_spacing (numerator denominator : Nat) :
    numerator / (denominator * spacing (numerator / denominator)) <
      9007199254740992 := by
  rw [← Nat.div_div_eq_div_mul]
  generalize numerator / denominator = whole
  refine Nat.div_lt_of_lt_mul ?_
  show whole < 2 ^ (whole.log2 - 52) * 2 ^ 53
  rw [← Nat.pow_add]
  by_cases zero : whole = 0
  · subst zero
    exact Nat.two_pow_pos _
  · exact (Nat.log2_lt zero).1 (by omega)

theorem spacing_dvd_roundedUnits (numerator denominator : Nat) :
    spacing (roundedUnits numerator denominator) ∣ roundedUnits numerator denominator := by
  have bound := quotient_le_of_spacing numerator denominator
  unfold roundedUnits
  dsimp only
  generalize numerator / (denominator * spacing (numerator / denominator)) = quotient at bound ⊢
  split
  · exact spacing_dvd_mul_pow bound
  · exact spacing_dvd_mul_pow (Nat.le_of_lt bound)

/-- The number nearest to `numerator / denominator` units, infinite past the limit. -/
def Number.ofUnits (negative : Bool) (numerator denominator : Nat) : Number :=
  if bounded : roundedUnits numerator denominator < unitsLimit then
    .finite negative ⟨roundedUnits numerator denominator, bounded,
      Nat.mod_eq_zero_of_dvd (spacing_dvd_roundedUnits numerator denominator)⟩
  else .infinite negative

theorem roundedUnits_eq_self {units : Nat} (representable : Representable units) :
    roundedUnits units 1 = units := by
  obtain ⟨-, onGrid⟩ := representable
  simp only [roundedUnits, Nat.div_one, Nat.one_mul, onGrid]
  have positive : 0 < spacing units := Nat.two_pow_pos _
  rw [if_neg (by omega)]
  exact Nat.div_mul_cancel (Nat.dvd_of_mod_eq_zero onGrid)

theorem Number.ofUnits_units (negative : Bool) (magnitude : Magnitude) :
    Number.ofUnits negative magnitude.units 1 = .finite negative magnitude := by
  have same := roundedUnits_eq_self magnitude.representable
  rw [Number.ofUnits, dif_pos (by rw [same]; exact magnitude.representable.1)]
  simp only [same]

end GridStore
