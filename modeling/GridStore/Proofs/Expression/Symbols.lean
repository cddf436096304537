import GridStore.Proofs.Number.Signed

/-!
The symbols of texts that are put together from pieces. A piece keeps its symbols wherever nothing
goes on with a number behind it, so digits, marks and blanks can be looked at one by one.
-/

set_option autoImplicit false

namespace GridStore.ExpressionSymbol

variable {text first second rest : List Char} {symbols left right : List ExpressionSymbol}
  {mark : Char} {symbol : ExpressionSymbol}

theorem is_number_character_blank {character : Char} (blank : Text.isBlank character = true) :
    isNumberCharacter character = false := by
  have point : Text.isBlank '.' = false := by decide
  rw [isNumberCharacter, Bool.or_eq_false_iff, beq_eq_false_iff_ne]
  constructor
  · cases digit : character.isDigit with
    | false => rfl
    | true =>
        rw [Text.is_blank_digit digit] at blank
        cases blank
  · rintro rfl
    rw [point] at blank
    cases blank

theorem mark_alone (spells : ofCharacter? mark = some symbol) :
    Text.isBlank mark = false ∧ isNumberCharacter mark = false := by
  unfold ofCharacter? at spells
  split at spells
  · decide
  · decide
  · decide
  · decide
  · decide
  · decide
  · decide
  · cases spells

theorem symbols_of_blank (blank : Text.isBlank mark = true) :
    ofCharacters? (mark :: rest) = ofCharacters? rest := by
  rw [ofCharacters?, if_pos blank]

theorem symbols_of_mark (spells : ofCharacter? mark = some symbol) :
    ofCharacters? (mark :: rest) = (ofCharacters? rest).map (symbol :: ·) := by
  obtain ⟨notBlank, notNumber⟩ := mark_alone spells
  rw [ofCharacters?, notBlank, notNumber, spells]
  cases ofCharacters? rest <;> rfl

/-- A run that is a number is one symbol when what follows it does not go on with the number. -/
theorem symbols_of_run {run : List Char} {value : Number}
    (inside : ∀ character ∈ run, isNumberCharacter character = true)
    (read : Number.ofChars? run = some value)
    (stops : ∀ character ∈ rest.head?, isNumberCharacter character = false) :
    ofCharacters? (run ++ rest) = (ofCharacters? rest).map (.number value :: ·) := by
  cases run with
  | nil => cases read
  | cons first run =>
      have firstInside := inside first List.mem_cons_self
      have notBlank : Text.isBlank first = false := by
        cases blank : Text.isBlank first with
        | false => rfl
        | true =>
            rw [is_number_character_blank blank] at firstInside
            cases firstInside
      have within : ∀ character ∈ run, isNumberCharacter character = true :=
        fun character member => inside character (List.mem_cons_of_mem _ member)
      rw [List.cons_append, ofCharacters?]
      simp only [notBlank, firstInside, Text.take_run within stops, Text.drop_run within stops,
        read, Bool.false_eq_true, if_false, if_true, Option.bind_eq_bind, Option.bind_some]
      cases ofCharacters? rest <;> rfl

/-- The text makes up the symbols, also with something behind it that does not go on with a
number. -/
def Splits (text : List Char) (symbols : List ExpressionSymbol) : Prop :=
  ∀ rest : List Char, (∀ character ∈ rest.head?, isNumberCharacter character = false) →
    ofCharacters? (text ++ rest) = (ofCharacters? rest).map (symbols ++ ·)

theorem symbols_of_splits (splits : Splits text symbols) : ofCharacters? text = some symbols := by
  have alone := splits [] (fun character head => by cases head)
  rw [List.append_nil, ofCharacters?] at alone
  rw [alone, Option.map_some, List.append_nil]

theorem splits_run {run : List Char} {value : Number}
    (inside : ∀ character ∈ run, isNumberCharacter character = true)
    (read : Number.ofChars? run = some value) : Splits run [.number value] :=
  fun _ stops => symbols_of_run inside read stops

theorem splits_digits {digits : List Char}
    (inside : ∀ character ∈ digits, character.isDigit = true) (nonempty : digits ≠ []) :
    Splits digits [.number (.ofNat (digitsValue digits))] :=
  splits_run (fun character member => is_number_character_digit (inside character member))
    (Number.number_of_digits inside nonempty)

theorem splits_numeral (value : Nat) :
    Splits (Nat.toDigits 10 value) [.number (.ofNat value)] := by
  have digits : Splits (Nat.toDigits 10 value) _ :=
    splits_digits (fun _ member => is_digit_of_numeral member) Nat.toDigits_ne_nil
  rwa [digits_value_numeral] at digits

theorem splits_nil : Splits [] [] := by
  intro rest stops
  exact Option.map_id'.symm

theorem splits_behind_mark (spells : ofCharacter? mark = some symbol)
    (splits : Splits text symbols) : Splits (mark :: text) (symbol :: symbols) := by
  intro rest stops
  rw [List.cons_append, symbols_of_mark spells, splits rest stops, Option.map_map]
  rfl

theorem splits_behind_blank (blank : Text.isBlank mark = true) (splits : Splits text symbols) :
    Splits (mark :: text) symbols := by
  intro rest stops
  rw [List.cons_append, symbols_of_blank blank, splits rest stops]

theorem splits_before_blank (blank : Text.isBlank mark = true) (splits : Splits text symbols) :
    Splits (text ++ [mark]) symbols := by
  intro rest stops
  have behind : ∀ character ∈ (mark :: rest).head?, isNumberCharacter character = false := by
    intro character head
    cases head
    exact is_number_character_blank blank
  rw [List.append_assoc, List.cons_append, List.nil_append, splits _ behind,
    symbols_of_blank blank]

theorem splits_around_mark (spells : ofCharacter? mark = some symbol)
    (firstSplits : Splits first left) (secondSplits : Splits second right) :
    Splits (first ++ mark :: second) (left ++ symbol :: right) := by
  intro rest stops
  have behind : ∀ character ∈ (mark :: second ++ rest).head?,
      isNumberCharacter character = false := by
    intro character head
    cases head
    exact (mark_alone spells).2
  rw [List.append_assoc, firstSplits _ behind, splits_behind_mark spells secondSplits rest stops,
    Option.map_map]
  apply congrFun (congrArg Option.map _)
  funext symbols
  exact (List.append_assoc left (symbol :: right) symbols).symm

end GridStore.ExpressionSymbol
