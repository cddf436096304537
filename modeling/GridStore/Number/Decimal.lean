import GridStore.Number.Arithmetic

/-!
Decimals: the shortest one that still denotes a given magnitude, and the number nearest to a
given one.

A decimal denotes a magnitude when it lies in the interval of values that round to it. The ends
belong to the interval when the significand is even, because rounding sends halves there.
-/

set_option autoImplicit false

namespace GridStore

structure Decimal where
  digits : Nat
  exponent : Int
deriving DecidableEq, Repr

inductive Tie where
  | awayFromZero
  | toEven
deriving DecidableEq, Repr

/-- The values that round to one magnitude, in quarters of a unit. -/
structure RoundingInterval where
  lower : Nat
  value : Nat
  upper : Nat
  closed : Bool

/-- Below a power of two the neighbours are twice as dense, so that side is half as wide. -/
def Magnitude.roundingInterval (magnitude : Magnitude) : RoundingInterval :=
  let units := magnitude.units
  let step := spacing units
  let below := if units = Nat.pow 2 units.log2 ∧ 52 < units.log2 then step else 2 * step
  { lower := 4 * units - below
    value := 4 * units
    upper := 4 * units + 2 * step
    closed := units / step % 2 == 0 }

namespace RoundingInterval

def contains (interval : RoundingInterval) (numerator denominator : Nat) : Bool :=
  if interval.closed then
    interval.lower * denominator ≤ numerator && numerator ≤ interval.upper * denominator
  else interval.lower * denominator < numerator && numerator < interval.upper * denominator

/-- The multiple of `10 ^ exponent` nearest to the value among those inside the interval. Only
the two neighbours of the value can be nearest. -/
def onGrid? (interval : RoundingInterval) (tie : Tie) (exponent : Int) : Option Decimal :=
  let quarters := 4 * unitsPerOne * Nat.pow 10 exponent.toNat
  let scale := Nat.pow 10 (-exponent).toNat
  let below := interval.value * scale / quarters
  let remainder := interval.value * scale % quarters
  let takesBelow := interval.contains (below * quarters) scale
  let takesAbove := interval.contains ((below + 1) * quarters) scale
  let prefersAbove := quarters < 2 * remainder ||
    (2 * remainder == quarters && (tie == .awayFromZero || below % 2 == 1))
  if takesAbove && (!takesBelow || prefersAbove) then some ⟨below + 1, exponent⟩
  else if takesBelow then some ⟨below, exponent⟩
  else none

end RoundingInterval

/-- An exponent whose power of ten exceeds twice the magnitude: `0.30103` is just above the
decimal logarithm of two. -/
def Magnitude.topExponent (magnitude : Magnitude) : Int :=
  ((magnitude.units.log2 : Int) - 1072) * 30103 / 100000 + 1

/-- The shortest decimal that denotes the magnitude: the coarsest decimal grid with a point in
the rounding interval. Seventeen digits always suffice, so the search is short. -/
def Magnitude.shortest (magnitude : Magnitude) (tie : Tie) : Decimal :=
  if magnitude.units = 0 then ⟨0, 0⟩
  else
    let top := magnitude.topExponent
    ((List.range 24).findSome? fun step : Nat =>
      magnitude.roundingInterval.onGrid? tie (top - step)).getD ⟨0, 0⟩

/-- The number nearest to `digits * 10 ^ exponent`. Exponents far outside the range of numbers
are settled without computing the power. -/
def Number.ofDecimal (negative : Bool) (digits : Nat) (exponent : Int) : Number :=
  let size := exponent + ((Nat.toDigits 10 digits).length : Int)
  if digits = 0 then .zero negative
  else if 400 < size then .infinite negative
  else if size < -400 then .zero negative
  else
    .ofUnits negative (digits * Nat.pow 10 exponent.toNat * unitsPerOne)
      (Nat.pow 10 (-exponent).toNat)

end GridStore
