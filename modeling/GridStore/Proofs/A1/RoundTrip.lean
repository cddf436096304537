import GridStore.A1.Read
import GridStore.Proofs.Number.Numeral
import GridStore.Proofs.Text.Run

/-!
Addresses as text: a block that can be addressed is read back from its own A1 address, whatever
the extent of the grid that the address is read for.
-/

set_option autoImplicit false

namespace GridStore

namespace ColumnLetters

theorem capital_letter : ∀ digit ∈ List.range 26, Corner.isCapital (letter digit) = true := by
  decide +kernel

theorem worth_letter : ∀ digit ∈ List.range 26, worth (letter digit) = digit + 1 := by
  decide +kernel

theorem letter_of_capital {character : Char} (capital : Corner.isCapital character = true) :
    isLetter character = true := by
  rw [isLetter, Bool.or_eq_true]
  exact Or.inl capital

theorem value_from_cons (value : Nat) (character : Char) (rest : List Char) :
    valueFrom? value (character :: rest) =
      if isLetter character then
        match Size.checked (value * 26 + worth character) with
        | some value => valueFrom? value rest
        | none => none
      else none := by
  delta valueFrom?
  rfl

theorem value_from_letter {value digit : Nat} {rest : List Char} (below : digit < 26)
    (small : value * 26 + (digit + 1) ≤ Size.largest) :
    valueFrom? value (letter digit :: rest) = valueFrom? (value * 26 + (digit + 1)) rest := by
  have letter := letter_of_capital (capital_letter digit (List.mem_range.2 below))
  have worth := worth_letter digit (List.mem_range.2 below)
  have checked : Size.checked (value * 26 + (digit + 1)) = some (value * 26 + (digit + 1)) :=
    if_pos small
  rw [value_from_cons, if_pos letter, worth, checked]

theorem value_from_spelled {position : Nat} (suffix : List Char)
    (small : position + 1 ≤ Size.largest) :
    valueFrom? 0 (spelledBefore suffix position) = valueFrom? (position + 1) suffix := by
  induction suffix, position using spelledBefore.induct with
  | case1 suffix position single =>
      rw [spelledBefore, if_pos single, value_from_letter single (by omega)]
      simp
  | case2 suffix position several induction =>
      -- The letters in front spell `position / 26 - 1`; the suffix now begins with the last one.
      have shorter : position / 26 - 1 + 1 = position / 26 := by omega
      have below : position % 26 < 26 := Nat.mod_lt _ (by decide)
      have digits : position / 26 * 26 + (position % 26 + 1) = position + 1 := by omega
      rw [spelledBefore, if_neg several, induction (by omega), shorter,
        value_from_letter below (by omega), digits]

theorem capital_of_spelled {position : Nat} {suffix : List Char} {character : Char}
    (member : character ∈ spelledBefore suffix position) :
    character ∈ suffix ∨ Corner.isCapital character = true := by
  induction suffix, position using spelledBefore.induct with
  | case1 suffix position single =>
      rw [spelledBefore, if_pos single] at member
      rcases List.mem_cons.1 member with rfl | deeper
      · exact Or.inr (capital_letter position (List.mem_range.2 single))
      · exact Or.inl deeper
  | case2 suffix position several induction =>
      rw [spelledBefore, if_neg several] at member
      rcases induction member with inside | capital
      · rcases List.mem_cons.1 inside with rfl | deeper
        · have below : position % 26 < 26 := Nat.mod_lt _ (by decide)
          exact Or.inr (capital_letter _ (List.mem_range.2 below))
        · exact Or.inl deeper
      · exact Or.inr capital

theorem capital_of_position {position : Nat} {character : Char}
    (member : character ∈ ofPosition position) : Corner.isCapital character = true := by
  rcases capital_of_spelled member with nowhere | capital
  · cases nowhere
  · exact capital

theorem position_of_letters {position : Nat} (small : position + 1 ≤ Size.largest) :
    position? (ofPosition position) = some position := by
  have value : valueFrom? 0 (ofPosition position) = some (position + 1) :=
    value_from_spelled [] small
  have notEmpty : (ofPosition position).isEmpty = false := by
    cases spelled : ofPosition position with
    | nil =>
        rw [spelled] at value
        cases value
    | cons letter rest => rfl
  rw [position?, notEmpty, value]
  rfl

end ColumnLetters

namespace Corner

theorem capital_code {character : Char} (capital : isCapital character = true) :
    65 ≤ character.toNat ∧ character.toNat ≤ 90 := by
  simp only [isCapital, Bool.and_eq_true, decide_eq_true_eq] at capital
  exact capital

theorem decimal_of_digit {character : Char} (digit : character.isDigit = true) :
    Text.isDecimalDigit character = true := by
  have code := Text.digit_code digit
  have ascii : (48, 57) ∈ Text.decimalDigitRanges := List.mem_cons_self
  have inside : (decide (48 ≤ character.toNat) && decide (character.toNat ≤ 57)) = true := by
    simpa using code
  exact List.any_eq_true.2 ⟨(48, 57), ascii, inside⟩

theorem not_capital_of_digit {character : Char} (digit : character.isDigit = true) :
    isCapital character = false := by
  have code := Text.digit_code digit
  rw [Bool.eq_false_iff]
  intro capital
  have := capital_code capital
  omega

def ofCell (row column : Nat) : Corner :=
  ⟨ColumnLetters.ofPosition (column - 1), Nat.toDigits 10 row⟩

theorem read_reference (row column : Nat) {rest : List Char}
    (stops : ∀ character ∈ rest.head?, Text.isDecimalDigit character = false) :
    read (Span.reference row column ++ rest) = (ofCell row column, rest) := by
  have notEmpty : Nat.toDigits 10 row ≠ [] := Nat.toDigits_ne_nil
  have letters : (ColumnLetters.ofPosition (column - 1) ++ (Nat.toDigits 10 row ++ rest)).span
      isCapital = (ColumnLetters.ofPosition (column - 1), Nat.toDigits 10 row ++ rest) := by
    refine Text.span_run (fun _ member => ColumnLetters.capital_of_position member) ?_
    intro character front
    rw [List.head?_append, List.head?_eq_some_head notEmpty, Option.some_or, Option.mem_some_iff]
      at front
    rw [← front]
    exact not_capital_of_digit (is_digit_of_numeral (List.head_mem notEmpty))
  have digits : (Nat.toDigits 10 row ++ rest).span Text.isDecimalDigit =
      (Nat.toDigits 10 row, rest) :=
    Text.span_run (fun _ member => decimal_of_digit (is_digit_of_numeral member)) stops
  rw [read, Span.reference, List.append_assoc, letters]
  simp only [digits, ofCell]

theorem read_whole_reference (row column : Nat) :
    read (Span.reference row column) = (ofCell row column, []) := by
  have stops : ∀ character ∈ ([] : List Char).head?, Text.isDecimalDigit character = false := by
    intro character front
    cases front
  have read := read_reference row column stops
  rwa [List.append_nil] at read

theorem row_of_cell {row : Nat} (column : Nat) (positive : 1 ≤ row) (small : row ≤ Size.largest) :
    (ofCell row column).row? = some (row - 1) := by
  obtain ⟨before, rfl⟩ := Nat.exists_eq_add_of_le' positive
  rw [row?, ofCell, size_of_numeral small]
  rfl

theorem column_of_cell {column : Nat} (row : Nat) (positive : 1 ≤ column)
    (small : column ≤ Size.largest) :
    (ofCell row column).column? = some (column - 1) := by
  have restored : column - 1 + 1 = column := Nat.sub_add_cancel positive
  exact ColumnLetters.position_of_letters (by rw [restored]; exact small)

end Corner

namespace Span

def IsAddressCharacter (character : Char) : Prop :=
  Corner.isCapital character = true ∨ character.isDigit = true ∨ character = ':'

theorem address_character_solid {character : Char} (allowed : IsAddressCharacter character) :
    Text.isBlank character = false := by
  rcases allowed with capital | digit | rfl
  · have code := Corner.capital_code capital
    simp only [Text.isBlank, Text.inRanges, Text.blankRanges, List.any_cons, List.any_nil,
      Bool.or_eq_false_iff, Bool.and_eq_false_iff, decide_eq_false_iff_not, and_true]
    omega
  · exact Text.is_blank_digit digit
  · decide

theorem address_character_upper {character : Char} (allowed : IsAddressCharacter character) :
    character.toUpper = character := by
  have below : character.toNat < 97 := by
    rcases allowed with capital | digit | rfl
    · have := Corner.capital_code capital
      omega
    · have := Text.digit_code digit
      omega
    · decide
  have notSmall : ¬ 'a'.val ≤ character.val := fun small =>
    absurd (show 97 ≤ character.toNat from small) (Nat.not_le.2 below)
  exact dif_neg fun bounds => notSmall bounds.1

theorem character_of_reference {row column : Nat} {character : Char}
    (member : character ∈ reference row column) : IsAddressCharacter character := by
  rcases List.mem_append.1 member with letter | digit
  · exact Or.inl (ColumnLetters.capital_of_position letter)
  · exact Or.inr (Or.inl (is_digit_of_numeral digit))

theorem character_of_a1 {span : Span} {character : Char}
    (member : character ∈ span.a1Characters) : IsAddressCharacter character := by
  rw [a1Characters] at member
  split at member
  · exact character_of_reference member
  · rcases List.mem_append.1 member with start | stop
    · exact character_of_reference start
    · rcases List.mem_cons.1 stop with rfl | stop
      · exact Or.inr (Or.inr rfl)
      · exact character_of_reference stop

theorem normalized_a1 (span : Span) :
    (Text.trim span.a1.toList).map Char.toUpper = span.a1Characters := by
  have solid : ∀ character ∈ span.a1Characters, Text.isBlank character = false :=
    fun _ member => address_character_solid (character_of_a1 member)
  rw [a1, String.toList_ofList, Text.trim_solid solid]
  exact (List.map_congr_left fun _ member => address_character_upper (character_of_a1 member)).trans
    (List.map_id' _)

theorem reference_of_a1 (span : Span) :
    Reference.ofCharacters? span.a1Characters =
      some ⟨.ofCell span.row span.column,
        if span.rows = 1 ∧ span.columns = 1 then none
        else some (.ofCell span.lastRow span.lastColumn)⟩ := by
  have stop := Corner.read_whole_reference span.lastRow span.lastColumn
  by_cases single : span.rows = 1 ∧ span.columns = 1
  · have start := Corner.read_whole_reference span.row span.column
    rw [a1Characters, if_pos single, if_pos single, Reference.ofCharacters?, start]
  · have colon : Text.isDecimalDigit ':' = false := by decide
    have start : Corner.read (reference span.row span.column ++
        ':' :: reference span.lastRow span.lastColumn) =
        (.ofCell span.row span.column, ':' :: reference span.lastRow span.lastColumn) :=
      Corner.read_reference _ _ (by simp [colon])
    simp only [a1Characters, if_neg single, Reference.ofCharacters?, start, stop]

theorem between_corners {span : Span} (fits : span.Addressable) :
    between (span.row - 1, span.lastRow - 1) (span.column - 1, span.lastColumn - 1) = span := by
  obtain ⟨⟨row, column, rows, columns⟩, -⟩ := fits
  have rowOrder : span.row - 1 ≤ span.lastRow - 1 := by
    rw [lastRow]
    omega
  have columnOrder : span.column - 1 ≤ span.lastColumn - 1 := by
    rw [lastColumn]
    omega
  simp only [between, Nat.min_eq_left rowOrder, Nat.max_eq_right rowOrder,
    Nat.min_eq_left columnOrder, Nat.max_eq_right columnOrder]
  cases span
  simp only [lastRow, lastColumn, mk.injEq] at *
  omega

/-- A block between positions that are all spelled out does not depend on the extent. -/
theorem of_a1_a1 {span : Span} (fits : span.Addressable) (maxRows maxColumns : Nat) :
    ofA1 span.a1 maxRows maxColumns = .ok span := by
  have corners := between_corners fits
  obtain ⟨⟨row, column, rows, columns⟩, rowSmall, columnSmall⟩ := fits
  have lastRow : 1 ≤ span.lastRow ∧ span.lastRow ≤ Size.largest := by
    rw [Span.lastRow]
    omega
  have lastColumn : 1 ≤ span.lastColumn ∧ span.lastColumn ≤ Size.largest := by
    rw [Span.lastColumn]
    omega
  have startRow := Corner.row_of_cell span.column row (by omega)
  have startColumn := Corner.column_of_cell span.row column (by omega)
  have stopRow := Corner.row_of_cell span.lastColumn lastRow.1 lastRow.2
  have stopColumn := Corner.column_of_cell span.lastRow lastColumn.1 lastColumn.2
  rw [ofA1, normalized_a1, reference_of_a1]
  simp only [startRow, startColumn, Option.isNone_some, Bool.and_self, Bool.false_eq_true, if_false]
  congr 1
  by_cases single : span.rows = 1 ∧ span.columns = 1
  · have sameRow : span.lastRow = span.row := by
      rw [Span.lastRow, single.1, Nat.add_sub_cancel]
    have sameColumn : span.lastColumn = span.column := by
      rw [Span.lastColumn, single.2, Nat.add_sub_cancel]
    rw [sameRow, sameColumn] at corners
    rw [if_pos single]
    exact corners
  · rw [if_neg single]
    simp only [Option.map_some, stopRow, stopColumn, Reference.bounds, Option.getD_some]
    exact corners

end Span

end GridStore
