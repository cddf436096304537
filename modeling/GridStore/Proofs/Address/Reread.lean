import GridStore.Proofs.Address.Direct
import GridStore.Proofs.Address.Part
import GridStore.Proofs.Address.Resolve
import GridStore.Proofs.Expression.Written
import GridStore.Proofs.Number.Display

/-!
Tokens that are written out and read again as parts of a joined address. A finite number other than
zero comes back as itself, zero and infinities as their texts, and a text that reads as a number
comes back as that number. Main statement: all of them are good for the same coordinates as before,
a decimal with an exponent apart, which has no value while it is a text.
-/

set_option autoImplicit false

namespace GridStore

namespace Address

variable {metrics : Metric → Nat}

theorem lenient_display (negative : Bool) (magnitude : Magnitude) :
    lenientNumber? (Number.finite negative magnitude).display.toList =
      some (.finite negative magnitude) := by
  have inside := Number.display_character negative magnitude
  have solid : Text.trim (Number.finite negative magnitude).display.toList =
      (Number.finite negative magnitude).display.toList := by
    apply Text.trim_solid
    intro character member
    rcases inside character member with digit | rfl | rfl
    · exact Text.is_blank_digit digit
    · decide
    · decide
  have decimal : (Number.finite negative magnitude).display.toList.all isDecimalCharacter =
      true := by
    rw [List.all_eq_true]
    intro character member
    rcases inside character member with digit | rfl | rfl
    · simp [isDecimalCharacter, digit]
    · decide
    · decide
  have nonempty := List.isEmpty_eq_false_iff.2 (Number.display_not_empty negative magnitude)
  rw [lenientNumber?, solid, nonempty, decimal, if_neg Bool.false_ne_true, if_pos rfl,
    Number.of_chars_display]

/-- As an expression it has the number as its value, with no word to put in. -/
theorem evaluate_display (metrics : Metric → Nat) (negative : Bool) (magnitude : Magnitude) :
    Expression.evaluate? (filled metrics (Number.finite negative magnitude).display.toList) =
      some (.finite negative magnitude) := by
  have absent {character : Char} (noDigit : character.isDigit = false) (noPoint : character ≠ '.')
      (noSign : character ≠ '-') :
      character ∉ (Number.finite negative magnitude).display.toList := by
    intro member
    rcases Number.display_character negative magnitude character member with
      digit | point | sign
    · rw [noDigit] at digit
      cases digit
    · exact noPoint point
    · exact noSign sign
  rw [filled_absent (absent (by decide) (by decide) (by decide))
    (absent (by decide) (by decide) (by decide))]
  obtain ⟨symbols, expression, splits, derived, valued⟩ :=
    Expression.derives_decimal (Number.of_chars_display negative magnitude)
      (absent (by decide) (by decide) (by decide)) (absent (by decide) (by decide) (by decide))
  rw [Expression.evaluate_derived (ExpressionSymbol.symbols_of_splits splits)
    (.term (.factor derived)), valued]

end Address

namespace AddressToken

def IsScientific : AddressToken → Prop
  | .text content => ∃ value, Address.lenientNumber? content.toList = some value ∧
      value.isZero = false ∧ ('e' ∈ content.toList ∨ 'E' ∈ content.toList)
  | _ => False

def IsZero : AddressToken → Prop
  | .number value => value.isZero = true
  | _ => False

/-- Numbers other than `nan`, and texts that hold no comma. -/
def IsPlain : AddressToken → Prop
  | .number value => value.isNaN = false
  | .text content => ',' ∉ content.toList
  | _ => False

def reread (token : AddressToken) : AddressToken := Address.tokenOfPart token.display.toList

inductive Rereads : AddressToken → AddressToken → Prop where
  | same {token : AddressToken} : ¬token.IsZero → Rereads token token
  | zero {value : Number} : value.isZero = true → Rereads (.number value) (.text value.display)
  | infinite (negative : Bool) :
      Rereads (.number (.infinite negative)) (.text (Number.infinite negative).display)
  | numeric {content : String} {value : Number} :
      Address.lenientNumber? content.toList = some value → value.isZero = false →
        Rereads (.text content) (.number value)

variable {metrics : Metric → Nat} {token after : AddressToken} {value : Number}

theorem rereads_of_plain (plain : token.IsPlain) : Rereads token token.reread := by
  cases token with
  | missing => cases plain
  | resolver find => cases plain
  | text content =>
      rw [reread, display, Address.tokenOfPart, String.ofList_toList]
      cases read : Address.lenientNumber? content.toList with
      | none => exact .same not_false
      | some value =>
          cases nothing : value.isZero with
          | true =>
              simp only [nothing, if_true]
              exact .same not_false
          | false =>
              simp only [nothing, Bool.false_eq_true, if_false]
              exact .numeric read nothing
  | number value =>
      rw [reread, display, Address.tokenOfPart, String.ofList_toList]
      cases value with
      | nan => cases plain
      | infinite negative =>
          have unread : Address.lenientNumber? (Number.infinite negative).display.toList = none := by
            cases negative <;> decide
          rw [unread]
          exact .infinite negative
      | finite negative magnitude =>
          rw [Address.lenient_display]
          cases nothing : (Number.finite negative magnitude).isZero with
          | true =>
              simp only [nothing, if_true]
              exact .zero nothing
          | false =>
              simp only [nothing, Bool.false_eq_true, if_false]
              exact .same (Bool.eq_false_iff.1 nothing)

theorem present_of_infinite_text (negative : Bool) :
    isPresent (.text (Number.infinite negative).display) = true := by
  cases negative <;> decide

theorem present_of_zero (zero : token.IsZero) (rereads : Rereads token after) :
    after.isPresent = true := by
  cases rereads with
  | same nonzero => exact absurd zero nonzero
  | infinite negative => exact present_of_infinite_text negative
  | numeric read nonzero => cases zero
  | @zero number nothing =>
      cases number with
      | nan => cases nothing
      | infinite negative => cases nothing
      | finite negative magnitude =>
          have nonempty := Number.display_not_empty negative magnitude
          simpa [isPresent] using nonempty

theorem content_of_lenient {content : String} {number : Number}
    (read : Address.lenientNumber? content.toList = some number) (nonzero : number.isZero = false) :
    content.isEmpty = false := by
  rw [← Bool.not_eq_true, String.isEmpty_iff]
  rintro rfl
  cases read
  cases nonzero

theorem present_reread (rereads : Rereads token after) (nonzero : ¬token.IsZero) :
    after.isPresent = token.isPresent := by
  cases rereads with
  | same nonzero => rfl
  | zero zero => exact absurd zero nonzero
  | infinite negative => exact present_of_infinite_text negative
  | numeric read other =>
      simp [isPresent, other, content_of_lenient read other,
        Number.is_nan_of_chars (Address.decimal_of_lenient read other).1]

theorem present_of_scientific (scientific : token.IsScientific) : token.isPresent = true := by
  cases token with
  | missing => cases scientific
  | number number => cases scientific
  | resolver find => cases scientific
  | text content =>
      obtain ⟨number, read, nonzero, -⟩ := scientific
      rw [isPresent, content_of_lenient read nonzero]
      rfl

/-- The token has a value, which is good for the row, the column or the extent of a block. -/
def IsUsable (metrics : Metric → Nat) (token : AddressToken) (value : Number) : Prop :=
  Address.coordinateAt metrics token = .ok value ∧ Address.IsCoordinate value

theorem usable_number_iff {number : Number} :
    IsUsable metrics (.number number) value ↔
      number.trunc = value ∧ Address.IsCoordinate value := by
  rw [IsUsable, Address.coordinateAt, Except.ok.injEq]

theorem usable_text_iff {content : String} :
    IsUsable metrics (.text content) value ↔
      ∃ number, Expression.evaluate? (Address.filled metrics content.toList) = some number ∧
        number.isFinite = true ∧ number.trunc = value ∧ Address.IsCoordinate value := by
  rw [IsUsable, Address.coordinateAt, Address.numberOf]
  cases Expression.evaluate? (Address.filled metrics content.toList) with
  | none => simp
  | some number => cases finite : number.isFinite <;> simp [finite]

theorem trunc_zero {number : Number} (zero : number.isZero = true) :
    number.trunc.isZero = true := by
  cases number with
  | nan => cases zero
  | infinite negative => cases zero
  | finite negative magnitude =>
      have nothing : magnitude.units = 0 := beq_iff_eq.1 zero
      rw [Number.trunc, Number.wholePart, nothing, Nat.zero_div, Nat.zero_mul]
      exact congrArg Number.isZero (Number.ofUnits_units negative .zero)

theorem infinite_unusable (negative : Bool) :
    ¬Address.IsCoordinate (Number.infinite negative) := by
  rintro ⟨-, size⟩
  cases negative with
  | false =>
      rw [Address.is_no_size_infinite] at size
      cases size
  | true =>
      rw [Address.is_no_size_negative_infinite] at size
      cases size

theorem zero_number_unusable {number : Number} (zero : number.isZero = true) :
    ¬IsUsable metrics (.number number) value := by
  rw [usable_number_iff]
  rintro ⟨rfl, nonzero, -⟩
  rw [trunc_zero zero] at nonzero
  cases nonzero

theorem zero_text_unusable {number : Number} (zero : number.isZero = true) :
    ¬IsUsable metrics (.text number.display) value := by
  rw [usable_text_iff]
  rintro ⟨other, evaluates, -, rfl, nonzero, -⟩
  cases number with
  | nan => cases zero
  | infinite negative => cases zero
  | finite negative magnitude =>
      rw [Address.evaluate_display] at evaluates
      cases evaluates
      rw [trunc_zero zero] at nonzero
      cases nonzero

theorem zero_reread_unusable (rereads : Rereads token after) (zero : token.IsZero) :
    ¬IsUsable metrics after value := by
  cases rereads with
  | same nonzero => exact absurd zero nonzero
  | zero nothing => exact zero_text_unusable nothing
  | infinite negative => cases zero
  | numeric read nonzero => cases zero

theorem infinite_text_unusable (negative : Bool) :
    ¬IsUsable metrics (.text (Number.infinite negative).display) value := by
  rw [usable_text_iff]
  rintro ⟨other, evaluates, -⟩
  have unfilled : Address.filled metrics (Number.infinite negative).display.toList =
      (Number.infinite negative).display.toList := by
    apply Address.filled_absent
    · cases negative <;> decide
    · cases negative <;> decide
  have member : 'i' ∈ (Number.infinite negative).display.toList := by
    cases negative <;> decide
  rw [unfilled, Expression.evaluate_foreign member (by decide) (by decide) (by decide)] at evaluates
  cases evaluates

/-- A text that has an exponent is no expression. -/
theorem scientific_unusable (scientific : token.IsScientific) :
    ¬IsUsable metrics token value := by
  cases token with
  | missing => cases scientific
  | number number => cases scientific
  | resolver find => cases scientific
  | text content =>
      obtain ⟨number, read, nonzero, exponent⟩ := scientific
      rw [usable_text_iff, Address.filled_of_lenient read nonzero]
      rintro ⟨other, evaluates, -⟩
      rcases exponent with small | capital
      · rw [Expression.evaluate_foreign small (by decide) (by decide) (by decide)] at evaluates
        cases evaluates
      · rw [Expression.evaluate_foreign capital (by decide) (by decide) (by decide)] at evaluates
        cases evaluates

/-- What has been read again is good for the same coordinates. -/
theorem usable_reread_iff (rereads : Rereads token after) (ordinary : ¬token.IsScientific) :
    IsUsable metrics after value ↔ IsUsable metrics token value := by
  cases rereads with
  | same nonzero => exact Iff.rfl
  | zero zero => exact iff_of_false (zero_text_unusable zero) (zero_number_unusable zero)
  | infinite negative =>
      refine iff_of_false (infinite_text_unusable negative) ?_
      rw [usable_number_iff]
      rintro ⟨rfl, usable⟩
      exact infinite_unusable negative usable
  | @numeric content number read nonzero =>
      have noSmall : 'e' ∉ content.toList := fun member =>
        ordinary ⟨number, read, nonzero, Or.inl member⟩
      have noCapital : 'E' ∉ content.toList := fun member =>
        ordinary ⟨number, read, nonzero, Or.inr member⟩
      rw [usable_number_iff, usable_text_iff, Address.filled_of_lenient read nonzero,
        Address.evaluate_of_lenient read nonzero noSmall noCapital]
      constructor
      · rintro ⟨rfl, usable⟩
        refine ⟨number, rfl, ?_, rfl, usable⟩
        cases number with
        | nan => cases Number.is_nan_of_chars (Address.decimal_of_lenient read nonzero).1
        | infinite negative => exact absurd usable (infinite_unusable negative)
        | finite negative magnitude => rfl
      · rintro ⟨other, same, -, truncated, usable⟩
        cases same
        exact ⟨truncated, usable⟩

end AddressToken

end GridStore
