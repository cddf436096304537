/-!
Sizes are natural numbers below `2 ^ 64`. Positions and counts are plain naturals; only where a
result may leave the range does the bound appear.
-/

set_option autoImplicit false

namespace GridStore.Size

def bound : Nat := 18446744073709551616

def largest : Nat := 18446744073709551615

def checked (value : Nat) : Option Nat := if value ≤ largest then some value else none

/-- Sums of sizes that nobody checks start again at zero. -/
def wrapped (value : Nat) : Nat := value % bound

/-- The size after another one. Nothing comes after the largest, so that the count starts again at
zero. -/
def next (value : Nat) : Nat := if value < largest then value + 1 else 0

def previous (value : Nat) : Nat := if value = 0 then largest else value - 1

theorem next_eq_wrapped {value : Nat} (size : value ≤ largest) :
    next value = wrapped (value + 1) := by
  rw [next, wrapped]
  split
  · next below =>
      have inside : value + 1 < bound := Nat.succ_lt_succ below
      rw [Nat.mod_eq_of_lt inside]
  · next above =>
      have last : value = largest := Nat.le_antisymm size (Nat.le_of_not_lt above)
      rw [last]
      rfl

theorem next_of_lt {value : Nat} (below : value < largest) : next value = value + 1 := if_pos below

theorem next_of_le {value : Nat} (above : largest ≤ value) : next value = 0 :=
  if_neg (Nat.not_lt.2 above)

theorem next_pos_iff {value : Nat} : 0 < next value ↔ value < largest := by
  rw [next]
  split <;> omega

theorem previous_of_pos {value : Nat} (positive : 1 ≤ value) : previous value = value - 1 :=
  if_neg (Nat.ne_of_gt positive)

def ofDigits? (digits : List Char) : Option Nat :=
  if digits.isEmpty || !digits.all Char.isDigit then none
  else checked (digits.foldl (fun value digit => 10 * value + (digit.toNat - '0'.toNat)) 0)

end GridStore.Size
