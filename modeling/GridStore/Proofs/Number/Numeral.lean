import GridStore.Number.Read
import GridStore.Proofs.Number.Whole
import Mathlib.Data.List.TakeWhile

/-!
Numerals: the decimal digits of a natural read back as that natural, as a size and as a number.
The number is the nearest one, so nothing bounds the natural here.
-/

set_option autoImplicit false

namespace GridStore

theorem is_digit_of_numeral {value : Nat} {character : Char}
    (member : character ∈ Nat.toDigits 10 value) : character.isDigit = true :=
  Nat.isDigit_of_mem_toDigits (by decide) (by decide) member

theorem all_digits (value : Nat) : (Nat.toDigits 10 value).all Char.isDigit = true :=
  List.all_eq_true.2 fun _ member => is_digit_of_numeral member

theorem numeral_not_empty (value : Nat) : (Nat.toDigits 10 value).isEmpty = false :=
  List.isEmpty_eq_false_iff.2 Nat.toDigits_ne_nil

theorem digits_value_numeral (value : Nat) : digitsValue (Nat.toDigits 10 value) = value :=
  Nat.ofDigitChars_ten_toDigits

theorem size_of_numeral {value : Nat} (size : value ≤ Size.largest) :
    Size.ofDigits? (Nat.toDigits 10 value) = some value := by
  have folded : (Nat.toDigits 10 value).foldl
      (fun value digit => 10 * value + (digit.toNat - '0'.toNat)) 0 = value :=
    Nat.ofDigitChars_ten_toDigits
  rw [Size.ofDigits?, numeral_not_empty, all_digits, folded]
  exact if_pos size

namespace Number

theorem of_nat_past_limit {count : Nat} (long : 400 < (Nat.toDigits 10 count).length) :
    ofNat count = .infinite false := by
  have base : 1 < 10 := by decide
  have places : 0 < 400 := by decide
  have past := mt (Nat.length_toDigits_le_iff base places).2 (Nat.not_le.2 long)
  have power : Nat.pow 2 1024 ≤ count := Nat.le_trans (by decide +kernel) (Nat.not_lt.1 past)
  have limit : unitsLimit ≤ Nat.pow 2 1024 * unitsPerOne := by decide +kernel
  rcases of_nat_cases power with infinite | ⟨magnitude, finite, units⟩
  · exact infinite
  · have bounded := magnitude.representable.1
    exact absurd (Nat.lt_of_lt_of_le bounded (Nat.le_trans limit units)) (Nat.lt_irrefl _)

theorem of_decimal_whole (value : Nat) : ofDecimal false value 0 = ofNat value := by
  have positive : 0 < (Nat.toDigits 10 value).length := Nat.length_toDigits_pos
  unfold ofDecimal
  by_cases nothing : value = 0
  · rw [if_pos nothing, nothing, of_nat_eq (Nat.zero_le _)]
    simp only [Nat.zero_mul]
    rfl
  · rw [if_neg nothing]
    by_cases long : 400 < (Nat.toDigits 10 value).length
    · rw [if_pos (by omega), of_nat_past_limit long]
    · rw [if_neg (by omega), if_neg (by omega)]
      simp only [Int.toNat_zero, Int.neg_zero, Nat.pow_zero, Nat.pow_eq, Nat.mul_one]
      rfl

theorem read_sign_unsigned {text : List Char} (noMinus : '-' ∉ text) (noPlus : '+' ∉ text) :
    readSign text = (false, text) := by
  unfold readSign
  split
  · exact absurd List.mem_cons_self noMinus
  · exact absurd List.mem_cons_self noPlus
  · rfl

theorem number_of_digits {digits : List Char}
    (inside : ∀ character ∈ digits, character.isDigit = true)
    (nonempty : digits ≠ []) : ofChars? digits = some (ofNat (digitsValue digits)) := by
  have unsigned : readSign digits = (false, digits) := by
    apply read_sign_unsigned
    · intro member
      exact absurd (inside _ member) (by decide)
    · intro member
      exact absurd (inside _ member) (by decide)
  have whole : digits.takeWhile Char.isDigit = digits := List.takeWhile_eq_self_iff.2 inside
  have nothing : digits.dropWhile Char.isDigit = [] := List.dropWhile_eq_nil_iff.2 inside
  have spelled : digits.isEmpty = false := List.isEmpty_eq_false_iff.2 nonempty
  simp only [ofChars?, unsigned, whole, nothing, readExponent?, spelled,
    List.append_nil, Bool.false_and, Bool.false_eq_true, if_false, List.length_nil,
    Option.bind_eq_bind, Option.bind_some]
  exact congrArg some (of_decimal_whole (digitsValue digits))

end Number

end GridStore
