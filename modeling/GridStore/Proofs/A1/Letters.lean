import GridStore.Proofs.A1.Checked
import Mathlib.Data.List.Induction
import Mathlib.Data.Nat.Digits.Defs

/-!
Column letters as numerals without a zero: the letters stand for the digits 1 to 26. Main statement:
positions and letters in capitals go together one to one, as far as the values of the letters are
sizes, and letters whose value is none are refused.
-/

set_option autoImplicit false

namespace GridStore.ColumnLetters

/-- What letters are worth together in base 26, of which the last one counts for one. -/
def value (letters : List Char) : Nat := Nat.ofDigits 26 (letters.map worth).reverse

theorem value_nil : value [] = 0 := Nat.ofDigits_nil

theorem value_cons (first : Char) (rest : List Char) :
    value (first :: rest) = worth first * 26 ^ rest.length + value rest := by
  rw [value, List.map_cons, List.reverse_cons, Nat.ofDigits_append, Nat.ofDigits_singleton,
    List.length_reverse, List.length_map, Nat.add_comm, Nat.mul_comm]
  rfl

theorem value_append (front : List Char) (last : Char) :
    value (front ++ [last]) = value front * 26 + worth last := by
  rw [value, List.map_append, List.reverse_append, List.map_singleton, List.reverse_singleton,
    List.singleton_append, Nat.ofDigits_cons, Nat.add_comm, Nat.mul_comm]
  rfl

theorem worth_bounds {character : Char} (letter : isLetter character = true) :
    1 ≤ worth character ∧ worth character ≤ 26 := by
  have code := upper_code letter
  have first : 'A'.toNat = 65 := rfl
  rw [worth]
  omega

theorem letter_of_worth {character : Char} (isLetter : isLetter character = true) :
    letter (worth character - 1) = character.toUpper := by
  have code := upper_code isLetter
  have first : 'A'.toNat = 65 := rfl
  have same : 'A'.toNat + (worth character - 1) = character.toUpper.toNat := by
    rw [worth]
    omega
  rw [letter, same, Char.ofNat_toNat]

variable {letters : List Char}

theorem value_positive (notEmpty : letters ≠ []) : 1 ≤ value letters := by
  cases letters with
  | nil => exact absurd rfl notEmpty
  | cons first rest =>
      have digit : 1 ≤ worth first := Nat.le_add_left 1 _
      have weight : 1 ≤ worth first * 26 ^ rest.length :=
        Nat.mul_pos digit (Nat.pow_pos (by decide))
      rw [value_cons]
      omega

/-- The letters of the position before a value are those that have the value, as capitals. -/
theorem spelled_of_value (notEmpty : letters ≠ [])
    (inside : ∀ character ∈ letters, isLetter character = true) (suffix : List Char) :
    spelledBefore suffix (value letters - 1) = letters.map Char.toUpper ++ suffix := by
  induction letters using List.reverseRecOn generalizing suffix with
  | nil => exact absurd rfl notEmpty
  | append_singleton front last induction =>
      have lastLetter : isLetter last = true := inside last (by simp)
      have digit := worth_bounds lastLetter
      have capital := letter_of_worth lastLetter
      rw [value_append, List.map_append, List.map_singleton, List.append_assoc,
        List.singleton_append]
      by_cases alone : front = []
      · subst alone
        have position : value [] * 26 + worth last - 1 = worth last - 1 := by
          rw [value_nil, Nat.zero_mul, Nat.zero_add]
        rw [position, spelledBefore, if_pos (by omega), capital]
        rfl
      · -- No digit is zero, so one less than the value ends in one less than the last digit.
        have before := value_positive alone
        have several : ¬value front * 26 + worth last - 1 < 26 := by omega
        have remainder : (value front * 26 + worth last - 1) % 26 = worth last - 1 := by omega
        have quotient : (value front * 26 + worth last - 1) / 26 - 1 = value front - 1 := by omega
        have others : ∀ character ∈ front, isLetter character = true :=
          fun character member => inside character (List.mem_append_left _ member)
        rw [spelledBefore, if_neg several, remainder, quotient, capital]
        exact induction alone others (last.toUpper :: suffix)

/-- Reading letters from the front comes to their value, unless it exceeds the sizes. -/
theorem value_from_eq {start : Nat} (small : start ≤ Size.largest)
    (inside : ∀ character ∈ letters, isLetter character = true) :
    valueFrom? start letters = Size.checked (start * 26 ^ letters.length + value letters) := by
  induction letters generalizing start with
  | nil =>
      rw [List.length_nil, pow_zero, Nat.mul_one, value_nil, Nat.add_zero, Size.checked,
        if_pos small]
      rfl
  | cons first rest induction =>
      have here := inside first List.mem_cons_self
      have later : ∀ character ∈ rest, isLetter character = true :=
        fun character member => inside character (List.mem_cons_of_mem _ member)
      have total : start * 26 ^ (first :: rest).length + value (first :: rest) =
          (start * 26 + worth first) * 26 ^ rest.length + value rest := by
        rw [value_cons, List.length_cons, pow_succ]
        ring
      rw [value_from_cons, if_pos here, total]
      by_cases fits : start * 26 + worth first ≤ Size.largest
      · have checked : Size.checked (start * 26 + worth first) = some (start * 26 + worth first) :=
          if_pos fits
        rw [checked]
        exact induction fits later
      · -- A value that is too large already only grows with further letters.
        have grown : start * 26 + worth first ≤
            (start * 26 + worth first) * 26 ^ rest.length + value rest :=
          Nat.le_trans (Nat.le_mul_of_pos_right _ (Nat.pow_pos (by decide))) (Nat.le_add_right _ _)
        have tooLarge : Size.checked (start * 26 + worth first) = none := if_neg fits
        rw [tooLarge, Size.checked, if_neg (by omega)]

theorem position_eq (notEmpty : letters ≠ [])
    (inside : ∀ character ∈ letters, isLetter character = true) :
    position? letters = (Size.checked (value letters)).map (· - 1) := by
  have some : ¬letters.isEmpty = true := by simpa using notEmpty
  rw [position?, if_neg some, value_from_eq (Nat.zero_le _) inside, Nat.zero_mul, Nat.zero_add]

theorem position_some_iff {position : Nat} (notEmpty : letters ≠ [])
    (inside : ∀ character ∈ letters, isLetter character = true) :
    position? letters = some position ↔
      value letters ≤ Size.largest ∧ position = value letters - 1 := by
  rw [position_eq notEmpty inside, Size.checked]
  by_cases fits : value letters ≤ Size.largest
  · simp [fits, eq_comm]
  · simp [fits]

theorem position_none_iff (notEmpty : letters ≠ [])
    (inside : ∀ character ∈ letters, isLetter character = true) :
    position? letters = none ↔ Size.largest < value letters := by
  rw [position_eq notEmpty inside, Size.checked]
  by_cases fits : value letters ≤ Size.largest
  · simp [fits]
  · simp [Nat.lt_of_not_le fits, fits]

theorem spelled_before_not_empty (suffix : List Char) (position : Nat) :
    spelledBefore suffix position ≠ [] := by
  induction suffix, position using spelledBefore.induct with
  | case1 suffix position single =>
      rw [spelledBefore, if_pos single]
      exact List.cons_ne_nil _ _
  | case2 suffix position several induction =>
      rw [spelledBefore, if_neg several]
      exact induction

/-- Every position below the largest size has letters that lead back to it. Letters that lead to a
position are, in capitals, the letters of that position, and letters lead nowhere exactly if their
value is no size. No step on either way leaves the sizes. -/
theorem letters_number_positions :
    (∀ position < Size.largest,
      spelledBefore? [] position = some (ofPosition position) ∧ ofPosition position ≠ [] ∧
        (∀ character ∈ ofPosition position, Corner.isCapital character = true) ∧
        position? (ofPosition position) = some position) ∧
    ∀ letters : List Char, letters ≠ [] → (∀ character ∈ letters, isLetter character = true) →
      checkedPosition letters = some (position? letters) ∧
        (∀ position, position? letters = some position →
          position < Size.largest ∧ ofPosition position = letters.map Char.toUpper) ∧
        (position? letters = none ↔ Size.largest < value letters) := by
  constructor
  · intro position below
    exact ⟨spelled_before_checked [] position, spelled_before_not_empty [] position,
      fun _ member => capital_of_position member, position_of_letters below⟩
  · intro letters notEmpty inside
    refine ⟨position_checked letters, ?_, position_none_iff notEmpty inside⟩
    intro position found
    obtain ⟨small, rfl⟩ := (position_some_iff notEmpty inside).1 found
    have positive := value_positive notEmpty
    have spelled := spelled_of_value notEmpty inside []
    rw [List.append_nil] at spelled
    exact ⟨by omega, spelled⟩

theorem last_letters_number :
    18446744073709551614 < Size.largest ∧
      position? (ofPosition 18446744073709551614) = some 18446744073709551614 ∧
      (∀ character ∈ "gkgwbylwrxtlpo".toList, isLetter character = true) ∧
      position? "gkgwbylwrxtlpo".toList = some 18446744073709551614 ∧
      ofPosition 18446744073709551614 = "GKGWBYLWRXTLPO".toList ∧
      (∀ character ∈ "gkgwbylwrxtlpp".toList, isLetter character = true) ∧
      Size.largest < value "gkgwbylwrxtlpp".toList ∧ position? "gkgwbylwrxtlpp".toList = none := by
  obtain ⟨spelled, read⟩ := letters_number_positions
  have below : 18446744073709551614 < Size.largest := by decide
  have inside : ∀ character ∈ "gkgwbylwrxtlpo".toList, isLetter character = true :=
    List.all_eq_true.1 (by decide)
  have found : position? "gkgwbylwrxtlpo".toList = some 18446744073709551614 := by decide
  have beyond : ∀ character ∈ "gkgwbylwrxtlpp".toList, isLetter character = true :=
    List.all_eq_true.1 (by decide)
  have large : Size.largest < value "gkgwbylwrxtlpp".toList := by decide
  exact ⟨below, (spelled _ below).2.2.2, inside, found,
    ((read _ (by decide) inside).2.1 _ found).2, beyond, large,
    (read _ (by decide) beyond).2.2.2 large⟩

end GridStore.ColumnLetters
