import GridStore.Expression
import GridStore.Proofs.Number.Numeral
import GridStore.Proofs.Text.Run
import Mathlib.Data.List.TakeDrop

/-!
Decimals with a sign: the sign is applied to what the rest reads as, and a rest without an exponent
is made of digits and points only, with at most one point.
-/

set_option autoImplicit false

namespace GridStore

namespace ExpressionSymbol

theorem is_number_character_digit {character : Char} (digit : character.isDigit = true) :
    isNumberCharacter character = true := by
  rw [isNumberCharacter, digit, Bool.true_or]

theorem number_character_pointed {whole behind : List Char}
    (digits : ∀ character ∈ whole, character.isDigit = true)
    (inside : ∀ character ∈ behind, isNumberCharacter character = true) :
    ∀ character ∈ whole ++ '.' :: behind, isNumberCharacter character = true := by
  refine List.forall_mem_append.2 ⟨?_, List.forall_mem_cons.2 ⟨rfl, inside⟩⟩
  intro character member
  exact is_number_character_digit (digits character member)

end ExpressionSymbol

namespace Number

open ExpressionSymbol

variable {unsigned rest whole behind : List Char}

def fraction (text : List Char) : List Char × List Char :=
  match text with
  | '.' :: rest => rest.span Char.isDigit
  | rest => ([], rest)

def ofUnsigned? (negative : Bool) (unsigned : List Char) : Option Number :=
  let whole := unsigned.takeWhile Char.isDigit
  let (behind, rest) := fraction (unsigned.dropWhile Char.isDigit)
  (readExponent? rest).bind fun exponent =>
    if whole.isEmpty && behind.isEmpty then none
    else some (ofDecimal negative (digitsValue (whole ++ behind)) (exponent - behind.length))

theorem of_chars_eq (text : List Char) :
    ofChars? text = ofUnsigned? (readSign text).1 (readSign text).2 := rfl

theorem of_units_neg (numerator denominator : Nat) :
    ofUnits true numerator denominator = (ofUnits false numerator denominator).neg := by
  unfold ofUnits
  split <;> rfl

theorem of_decimal_neg (digits : Nat) (exponent : Int) :
    ofDecimal true digits exponent = (ofDecimal false digits exponent).neg := by
  unfold ofDecimal
  dsimp only
  split
  · rfl
  · split
    · rfl
    · split
      · rfl
      · exact of_units_neg _ _

theorem of_unsigned_neg (unsigned : List Char) :
    ofUnsigned? true unsigned = (ofUnsigned? false unsigned).map neg := by
  unfold ofUnsigned?
  generalize fraction (unsigned.dropWhile Char.isDigit) = pair
  obtain ⟨behind, rest⟩ := pair
  dsimp only
  cases readExponent? rest with
  | none => rfl
  | some exponent =>
      rw [Option.bind_some, Option.bind_some, of_decimal_neg]
      split <;> rfl

theorem of_chars_negative (noSign : readSign unsigned = (false, unsigned)) :
    ofChars? ('-' :: unsigned) = (ofChars? unsigned).map neg := by
  rw [of_chars_eq unsigned, noSign, of_chars_eq, readSign]
  exact of_unsigned_neg unsigned

theorem no_sign_in_number (inside : ∀ character ∈ unsigned, isNumberCharacter character = true) :
    readSign unsigned = (false, unsigned) := by
  apply read_sign_unsigned
  · intro member
    exact absurd (inside _ member) (by decide)
  · intro member
    exact absurd (inside _ member) (by decide)

/-- What stops the digits behind a point is another point, which begins no exponent. -/
theorem exponent_at_point (inside : ∀ character ∈ behind, isNumberCharacter character = true)
    (stopped : ¬∀ character ∈ behind, character.isDigit = true) :
    readExponent? (behind.dropWhile Char.isDigit) = none := by
  cases left : behind.dropWhile Char.isDigit with
  | nil => exact absurd (List.dropWhile_eq_nil_iff.1 left) stopped
  | cons mark others =>
      have noDigit : mark.isDigit = false := by
        have head := List.head?_dropWhile_not Char.isDigit behind
        rw [left] at head
        simpa using head
      have number := inside mark
        ((List.dropWhile_sublist _).subset (left ▸ List.mem_cons_self))
      rw [isNumberCharacter, noDigit, Bool.false_or, beq_iff_eq] at number
      simp [readExponent?, number]

theorem of_chars_pointed (digits : ∀ character ∈ whole, character.isDigit = true)
    (inside : ∀ character ∈ behind, isNumberCharacter character = true) :
    ofChars? (whole ++ '.' :: behind) =
      if behind.all Char.isDigit && !(whole.isEmpty && behind.isEmpty) then
        some (.ofDecimal false (digitsValue (whole ++ behind)) (0 - behind.length))
      else none := by
  have noSign := no_sign_in_number (number_character_pointed digits inside)
  have point : ∀ character ∈ ('.' :: behind).head?, character.isDigit = false := by
    intro character head
    cases head
    rfl
  rw [of_chars_eq, noSign]
  simp only [ofUnsigned?, Text.take_run digits point, Text.drop_run digits point, fraction,
    List.span_eq_takeWhile_dropWhile]
  cases all : behind.all Char.isDigit with
  | true =>
      have decimals := List.all_eq_true.1 all
      rw [List.takeWhile_eq_self_iff.2 decimals, List.dropWhile_eq_nil_iff.2 decimals, readExponent?,
        Option.bind_some, Bool.true_and]
      cases whole.isEmpty && behind.isEmpty <;> rfl
  | false =>
      have stops := exponent_at_point inside (by rw [← List.all_eq_true, all]; decide)
      rw [stops]
      rfl

/-- Without the mark of an exponent, a decimal ends where its digits do. -/
theorem exponent_absent {exponent : Int} (read : readExponent? rest = some exponent)
    (noSmall : 'e' ∉ rest) (noCapital : 'E' ∉ rest) : rest = [] := by
  cases rest with
  | nil => rfl
  | cons mark rest =>
      have small : (mark == 'e') = false :=
        beq_eq_false_iff_ne.2 fun same => noSmall (same ▸ List.mem_cons_self)
      have capital : (mark == 'E') = false :=
        beq_eq_false_iff_ne.2 fun same => noCapital (same ▸ List.mem_cons_self)
      simp [readExponent?, small, capital] at read

theorem fraction_append (text : List Char) :
    ∃ front, text = front ++ (fraction text).2 ∧
      ∀ character ∈ front, isNumberCharacter character = true := by
  unfold fraction
  split
  · rename_i rest
    rw [List.span_eq_takeWhile_dropWhile]
    refine ⟨'.' :: rest.takeWhile Char.isDigit, ?_, ?_⟩
    · rw [List.cons_append, List.takeWhile_append_dropWhile]
    · intro character member
      rcases List.mem_cons.1 member with rfl | inside
      · decide
      · rw [isNumberCharacter, List.mem_takeWhile_imp inside, Bool.true_or]
  · exact ⟨[], rfl, fun _ member => by cases member⟩

/-- What reads as a decimal without a sign and without an exponent goes on with one number. -/
theorem unsigned_is_run {negative : Bool} {value : Number}
    (read : ofUnsigned? negative unsigned = some value) (noSmall : 'e' ∉ unsigned)
    (noCapital : 'E' ∉ unsigned) :
    unsigned ≠ [] ∧ ∀ character ∈ unsigned, isNumberCharacter character = true := by
  obtain ⟨front, apart, inside⟩ := fraction_append (unsigned.dropWhile Char.isDigit)
  have pieces : unsigned = unsigned.takeWhile Char.isDigit ++
      (front ++ (fraction (unsigned.dropWhile Char.isDigit)).2) := by
    rw [← apart, List.takeWhile_append_dropWhile]
  unfold ofUnsigned? at read
  obtain ⟨exponent, exponentRead, read⟩ := Option.bind_eq_some_iff.1 read
  have nothing : (fraction (unsigned.dropWhile Char.isDigit)).2 = [] := by
    apply exponent_absent exponentRead
    · intro member
      apply noSmall
      rw [pieces]
      exact List.mem_append_right _ (List.mem_append_right _ member)
    · intro member
      apply noCapital
      rw [pieces]
      exact List.mem_append_right _ (List.mem_append_right _ member)
  rw [nothing, List.append_nil] at pieces
  constructor
  · rintro rfl
    simp at read
  · intro character member
    rw [pieces] at member
    rcases List.mem_append.1 member with digit | behind
    · rw [isNumberCharacter, List.mem_takeWhile_imp digit, Bool.true_or]
    · exact inside character behind

end Number

end GridStore
