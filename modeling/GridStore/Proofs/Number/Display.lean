import GridStore.Number.Display
import GridStore.Proofs.Number.Shortest
import GridStore.Proofs.Number.Signed

/-!
Numbers as cells show them. A decimal written out positionally denotes the same number as its digits
and its exponent, so that a number is read back from its own text: the text of the shortest decimal
that denotes it.
-/

set_option autoImplicit false

namespace GridStore

theorem digits_value_append (front back : List Char) :
    digitsValue (front ++ back) = Nat.ofDigitChars 10 back (digitsValue front) :=
  List.foldl_append

theorem digits_value_zeros (digits : List Char) (places : Nat) :
    digitsValue (digits ++ List.replicate places '0') = digitsValue digits * 10 ^ places := by
  rw [digits_value_append, Nat.ofDigitChars_replicate_zero, Nat.mul_comm]

theorem digits_value_padded (places value : Nat) :
    digitsValue (List.replicate places '0' ++ Nat.toDigits 10 value) = value := by
  have nothing : digitsValue (List.replicate places '0') = 0 := by
    have zeros : digitsValue (List.replicate places '0') = 10 ^ places * 0 :=
      Nat.ofDigitChars_replicate_zero
    rw [zeros, Nat.mul_zero]
  rw [digits_value_append, nothing]
  exact Nat.ofDigitChars_ten_toDigits

theorem is_digit_of_zeros {places : Nat} {character : Char}
    (member : character ∈ List.replicate places '0') : character.isDigit = true := by
  rw [(List.mem_replicate.1 member).2]
  decide

namespace Number

/-- Zeros behind the digits instead of an exponent. -/
theorem of_decimal_zeros (negative : Bool) (digits places : Nat) :
    ofDecimal negative (digits * 10 ^ places) 0 = ofDecimal negative digits places := by
  have whole : (-(places : Int)).toNat = 0 := by omega
  rw [of_decimal_eq, of_decimal_eq, Int.toNat_natCast, whole]
  simp

end Number

namespace Decimal

structure IsWritten (decimal : Decimal) (whole fraction : List Char) : Prop where
  nonempty : whole ≠ []
  digits : ∀ character ∈ whole, character.isDigit = true
  decimals : ∀ character ∈ fraction, character.isDigit = true
  denotes : Number.ofDecimal false (digitsValue (whole ++ fraction)) (0 - fraction.length) =
    .ofDecimal false decimal.digits decimal.exponent

theorem written_positional (decimal : Decimal) :
    IsWritten decimal decimal.positional.1 decimal.positional.2 := by
  obtain ⟨digits, exponent⟩ := decimal
  have numeral : ∀ character ∈ Nat.toDigits 10 digits, character.isDigit = true :=
    fun _ member => is_digit_of_numeral member
  unfold positional
  dsimp only
  split
  · rename_i whole
    refine ⟨?_, ?_, List.forall_mem_nil _, ?_⟩
    · exact List.append_ne_nil_of_left_ne_nil Nat.toDigits_ne_nil _
    · exact List.forall_mem_append.2 ⟨numeral, fun _ member => is_digit_of_zeros member⟩
    · rw [List.append_nil, digits_value_zeros, digits_value_numeral, List.length_nil,
        Int.natCast_zero, Int.sub_zero, Number.of_decimal_zeros, Int.toNat_of_nonneg whole]
  · rename_i fractional
    generalize padding : (-exponent).toNat + 1 - (Nat.toDigits 10 digits).length = zeros
    generalize spread : List.replicate zeros '0' ++ Nat.toDigits 10 digits = padded
    have inside : ∀ character ∈ padded, character.isDigit = true := by
      rw [← spread]
      exact List.forall_mem_append.2 ⟨fun _ member => is_digit_of_zeros member, numeral⟩
    have long : (-exponent).toNat + 1 ≤ padded.length := by
      rw [← spread, List.length_append, List.length_replicate]
      omega
    rw [List.splitAt_eq]
    refine ⟨?_, ?_, ?_, ?_⟩
    · refine List.ne_nil_of_length_pos ?_
      rw [List.length_take]
      omega
    · exact fun character member => inside character (List.mem_of_mem_take member)
    · exact fun character member => inside character (List.mem_of_mem_drop member)
    · have places : (0 : Int) - ((padded.length - (padded.length - (-exponent).toNat) : Nat) : Int) =
          exponent := by omega
      rw [List.take_append_drop, List.length_drop, places, ← spread, digits_value_padded]

def plain (decimal : Decimal) : List Char :=
  if decimal.positional.2.isEmpty then decimal.positional.1
  else decimal.positional.1 ++ '.' :: decimal.positional.2

theorem plain_character (decimal : Decimal) :
    ∀ character ∈ decimal.plain, ExpressionSymbol.isNumberCharacter character = true := by
  have written := decimal.written_positional
  unfold plain
  split
  · intro character member
    exact ExpressionSymbol.is_number_character_digit (written.digits character member)
  · apply ExpressionSymbol.number_character_pointed written.digits
    intro character member
    exact ExpressionSymbol.is_number_character_digit (written.decimals character member)

theorem plain_not_empty (decimal : Decimal) : decimal.plain ≠ [] := by
  have nonempty := decimal.written_positional.nonempty
  unfold plain
  split
  · exact nonempty
  · exact List.append_ne_nil_of_left_ne_nil nonempty _

theorem of_chars_plain (decimal : Decimal) :
    Number.ofChars? decimal.plain = some (.ofDecimal false decimal.digits decimal.exponent) := by
  have written := decimal.written_positional
  rw [← written.denotes]
  unfold plain
  split
  · rename_i nothing
    rw [List.isEmpty_iff] at nothing
    rw [nothing, List.append_nil, Number.number_of_digits written.digits written.nonempty]
    exact congrArg some (Number.of_decimal_whole _).symm
  · have number : ∀ character ∈ decimal.positional.2,
        ExpressionSymbol.isNumberCharacter character = true := by
      intro character member
      exact ExpressionSymbol.is_number_character_digit (written.decimals character member)
    have some : decimal.positional.1.isEmpty = false :=
      List.isEmpty_eq_false_iff.2 written.nonempty
    rw [Number.of_chars_pointed written.digits number, List.all_eq_true.2 written.decimals, some]
    rfl

end Decimal

namespace Number

theorem of_chars_signed (negative : Bool) (decimal : Decimal) :
    ofChars? (signed negative decimal.plain) =
      some (ofDecimal negative decimal.digits decimal.exponent) := by
  cases negative with
  | false => exact decimal.of_chars_plain
  | true =>
      rw [signed, if_pos rfl, of_chars_negative (no_sign_in_number decimal.plain_character), decimal.of_chars_plain,
        Option.map_some, of_decimal_neg]

theorem display_finite (negative : Bool) (magnitude : Magnitude) :
    (display (.finite negative magnitude)).toList =
      signed negative (magnitude.shortest .awayFromZero).plain := by
  rw [display]
  exact String.toList_ofList

theorem display_character (negative : Bool) (magnitude : Magnitude) :
    ∀ character ∈ (display (.finite negative magnitude)).toList,
      character.isDigit = true ∨ character = '.' ∨ character = '-' := by
  rw [display_finite]
  have plain (character : Char) (member : character ∈ (magnitude.shortest .awayFromZero).plain) :
      character.isDigit = true ∨ character = '.' ∨ character = '-' := by
    have number := Decimal.plain_character _ character member
    rw [ExpressionSymbol.isNumberCharacter, Bool.or_eq_true, beq_iff_eq] at number
    exact number.imp_right Or.inl
  cases negative with
  | false => exact plain
  | true => exact List.forall_mem_cons.2 ⟨Or.inr (Or.inr rfl), plain⟩

theorem display_not_empty (negative : Bool) (magnitude : Magnitude) :
    (display (.finite negative magnitude)).toList ≠ [] := by
  rw [display_finite]
  cases negative with
  | false => exact (magnitude.shortest .awayFromZero).plain_not_empty
  | true => exact List.cons_ne_nil _ _

theorem is_nan_of_chars {text : List Char} {value : Number} (read : ofChars? text = some value) :
    value.isNaN = false := by
  rw [of_chars_eq, ofUnsigned?] at read
  generalize fraction ((readSign text).2.dropWhile Char.isDigit) = pair at read
  obtain ⟨behind, rest⟩ := pair
  obtain ⟨exponent, -, read⟩ := Option.bind_eq_some_iff.1 read
  split at read
  · cases read
  · cases read
    exact is_nan_of_decimal _ _ _

/-- A finite number is read back from its text. -/
theorem of_chars_display (negative : Bool) (magnitude : Magnitude) :
    ofChars? (display (.finite negative magnitude)).toList = some (.finite negative magnitude) := by
  rw [display_finite, of_chars_signed, of_decimal_shortest]

end Number

end GridStore
