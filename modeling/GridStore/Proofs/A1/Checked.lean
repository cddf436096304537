import GridStore.Proofs.A1.RoundTrip

/-!
Addresses written and read with 64-bit arithmetic: a second writer and a second reader, which stop
as soon as a sum or a difference is no size. The plain ones count in naturals and could not tell.
Main statement: for a block that can be addressed neither of them stops, and what the one has
written the other reads back, whatever the extent of the grid.
-/

set_option autoImplicit false

namespace GridStore

namespace Size

def add? (left right : Nat) : Option Nat := checked (left + right)

def sub? (left right : Nat) : Option Nat := if right ≤ left then some (left - right) else none

theorem add_within {left right : Nat} (small : left + right ≤ largest) :
    add? left right = some (left + right) := if_pos small

theorem sub_within {left right : Nat} (smaller : right ≤ left) :
    sub? left right = some (left - right) := if_pos smaller

theorem difference_of_sub {left right difference : Nat}
    (found : sub? left right = some difference) :
    right ≤ left ∧ difference = left - right := by
  unfold sub? at found
  split at found
  · rename_i smaller
    exact ⟨smaller, (Option.some.inj found).symm⟩
  · cases found

end Size

namespace ColumnLetters

def letter? (digit : Nat) : Option Char :=
  if 'A'.toNat + digit < 256 then some (letter digit) else none

def spelledBefore? (suffix : List Char) (position : Nat) : Option (List Char) :=
  match letter? (position % 26) with
  | none => none
  | some letter =>
      if position < 26 then some (letter :: suffix)
      else
        match found : Size.sub? (position / 26) 1 with
        | none => none
        | some before =>
            have shorter : before < position := by
              have difference := Size.difference_of_sub found
              omega
            spelledBefore? (letter :: suffix) before
termination_by position

def worth? (character : Char) : Option Nat := do
  Size.add? (← Size.sub? character.toUpper.toNat 'A'.toNat) 1

/-- The value of letters. A value that is no size is noticed by the plain reader too, which then
finds no column; only the worth of a letter could leave the sizes. -/
def checkedValueFrom (value : Nat) : List Char → Option (Option Nat)
  | [] => some (some value)
  | character :: rest =>
      if isLetter character then do
        let worth ← worth? character
        match Size.checked (value * 26 + worth) with
        | some value => checkedValueFrom value rest
        | none => some none
      else some none

def checkedPosition (letters : List Char) : Option (Option Nat) :=
  if letters.isEmpty then some none
  else do
    match ← checkedValueFrom 0 letters with
    | some value => (Size.sub? value 1).map some
    | none => some none

theorem letter_is_byte {digit : Nat} (below : digit < 26) :
    letter? digit = some (letter digit) := by
  have code : 'A'.toNat = 65 := rfl
  exact if_pos (by omega)

/-- Letters are only divided further when the quotient is positive. -/
theorem spelled_before_checked (suffix : List Char) (position : Nat) :
    spelledBefore? suffix position = some (spelledBefore suffix position) := by
  induction suffix, position using spelledBefore.induct with
  | case1 suffix position single =>
      have digit : position % 26 = position := Nat.mod_eq_of_lt single
      rw [spelledBefore?, spelledBefore, digit, letter_is_byte single, if_pos single]
      exact if_pos single
  | case2 suffix position several induction =>
      have byte := letter_is_byte (Nat.mod_lt position (show 0 < 26 by decide))
      have before : Size.sub? (position / 26) 1 = some (position / 26 - 1) :=
        Size.sub_within (by omega)
      rw [spelledBefore?, spelledBefore, byte, if_neg several]
      simp only [if_neg several]
      split
      · rename_i nothing
        rw [before] at nothing
        cases nothing
      · rename_i found
        rw [before] at found
        cases found
        exact induction

theorem upper_codes : ∀ code ∈ List.range 123, isLetter (Char.ofNat code) = true →
    65 ≤ (Char.ofNat code).toUpper.toNat ∧ (Char.ofNat code).toUpper.toNat ≤ 90 := by
  decide +kernel

theorem upper_code {character : Char} (letter : isLetter character = true) :
    65 ≤ character.toUpper.toNat ∧ character.toUpper.toNat ≤ 90 := by
  have code : character.toNat < 123 := by
    have bounds := letter
    simp only [isLetter, Bool.or_eq_true, Bool.and_eq_true, decide_eq_true_eq] at bounds
    rcases bounds with ⟨-, capital⟩ | ⟨-, small⟩
    · exact Nat.lt_of_le_of_lt capital (by decide)
    · exact Nat.lt_of_le_of_lt small (by decide)
  have upper := upper_codes character.toNat (List.mem_range.2 code)
  rw [Char.ofNat_toNat] at upper
  exact upper letter

theorem worth_checked {character : Char} (letter : isLetter character = true) :
    worth? character = some (worth character) := by
  have code := upper_code letter
  have first : 'A'.toNat = 65 := rfl
  have difference : Size.sub? character.toUpper.toNat 'A'.toNat =
      some (character.toUpper.toNat - 'A'.toNat) := Size.sub_within (by omega)
  have largest : Size.largest = 18446744073709551615 := rfl
  rw [worth?, difference]
  exact Size.add_within (by omega)

theorem value_from_checked (value : Nat) (letters : List Char) :
    checkedValueFrom value letters = some (valueFrom? value letters) := by
  induction letters generalizing value with
  | nil => rfl
  | cons character rest induction =>
      rw [value_from_cons, checkedValueFrom]
      by_cases letter : isLetter character = true
      · rw [if_pos letter, if_pos letter, worth_checked letter]
        cases checked : Size.checked (value * 26 + worth character) with
        | none => simp [checked]
        | some next => simp [checked, induction]
      · rw [if_neg letter, if_neg letter]

theorem value_grows {value result : Nat} {letters : List Char}
    (read : valueFrom? value letters = some result) : value + letters.length ≤ result := by
  induction letters generalizing value with
  | nil => exact Nat.le_of_eq (Option.some.inj read)
  | cons character rest induction =>
      rw [value_from_cons] at read
      split at read
      · cases checked : Size.checked (value * 26 + worth character) with
        | none =>
            rw [checked] at read
            cases read
        | some next =>
            have sum : next = value * 26 + worth character := by
              unfold Size.checked at checked
              split at checked
              · exact (Option.some.inj checked).symm
              · cases checked
            have positive : 1 ≤ worth character := Nat.le_add_left 1 _
            rw [checked] at read
            have grown := induction read
            rw [List.length_cons]
            omega
      · cases read

theorem position_checked (letters : List Char) :
    checkedPosition letters = some (position? letters) := by
  unfold checkedPosition position?
  by_cases nothing : letters.isEmpty = true
  · rw [if_pos nothing, if_pos nothing]
  · rw [if_neg nothing, if_neg nothing, value_from_checked]
    cases read : valueFrom? 0 letters with
    | none => rfl
    | some value =>
        have length : letters.length ≠ 0 := by simpa [List.isEmpty_iff] using nothing
        have grown := value_grows read
        have positive : Size.sub? value 1 = some (value - 1) := Size.sub_within (by omega)
        simp [positive]

end ColumnLetters

namespace Span

def reference? (row column : Nat) : Option (List Char) := do
  let position ← Size.sub? row 1
  let letters ← ColumnLetters.spelledBefore? [] (← Size.sub? column 1)
  some (letters ++ Nat.toDigits 10 (← Size.add? position 1))

def last? (first count : Nat) : Option Nat := do Size.sub? (← Size.add? first count) 1

def checkedA1 (span : Span) : Option String := do
  let start ← reference? span.row span.column
  if span.rows = 1 ∧ span.columns = 1 then some (String.ofList start)
  else
    let stop ← reference? (← last? span.row span.rows) (← last? span.column span.columns)
    some (String.ofList (start ++ ':' :: stop))

def count? (first last : Nat) : Option Nat := do Size.add? (← Size.sub? last first) 1

def between? (rows columns : Nat × Nat) : Option Span := do
  let row := min rows.1 rows.2
  let column := min columns.1 columns.2
  some
    { row := ← Size.add? row 1
      column := ← Size.add? column 1
      rows := ← count? row (max rows.1 rows.2)
      columns := ← count? column (max columns.1 columns.2) }

def checkedOfA1 (text : String) (maxRows maxColumns : Nat) : Option (Except RangeError Span) :=
  let characters := (Text.trim text.toList).map Char.toUpper
  let failure := RangeError.badFormat (String.ofList characters)
  match Reference.ofCharacters? characters with
  | none => some (.error failure)
  | some reference => do
      let row := reference.start.row?
      let column ← ColumnLetters.checkedPosition reference.start.letters
      let stop ← reference.stop.mapM fun corner => ColumnLetters.checkedPosition corner.letters
      if row.isNone && column.isNone then some (.error failure)
      else
        let span ← between? (Reference.bounds maxRows row (reference.stop.map Corner.row?))
          (Reference.bounds maxColumns column stop)
        some (.ok span)

theorem reference_checked (row column : Nat) (rowFits : 1 ≤ row ∧ row ≤ Size.largest)
    (columnPositive : 1 ≤ column) : reference? row column = some (reference row column) := by
  have rowPosition : Size.sub? row 1 = some (row - 1) := Size.sub_within rowFits.1
  have columnPosition : Size.sub? column 1 = some (column - 1) := Size.sub_within columnPositive
  have restored : Size.add? (row - 1) 1 = some row := by
    rw [Size.add_within (by omega), Nat.sub_add_cancel rowFits.1]
  simp only [reference?, rowPosition, columnPosition, restored, Option.bind_eq_bind,
    Option.bind_some, ColumnLetters.spelled_before_checked]
  rfl

theorem last_checked {first count : Nat} (positive : 1 ≤ first)
    (small : first + count ≤ Size.largest) : last? first count = some (first + count - 1) := by
  rw [last?, Size.add_within small]
  exact Size.sub_within (by omega)

theorem a1_checked {span : Span} (fits : span.Addressable) : span.checkedA1 = some span.a1 := by
  obtain ⟨⟨row, column, rows, columns⟩, rowSmall, columnSmall⟩ := fits
  have start := reference_checked span.row span.column ⟨row, by omega⟩ column
  rw [checkedA1, a1, a1Characters, start]
  by_cases single : span.rows = 1 ∧ span.columns = 1
  · rw [if_pos single]
    exact if_pos single
  · have lastRow : 1 ≤ span.lastRow ∧ span.lastRow ≤ Size.largest := by
      rw [Span.lastRow]
      omega
    have lastColumn : 1 ≤ span.lastColumn := by
      rw [Span.lastColumn]
      omega
    have stop := reference_checked span.lastRow span.lastColumn lastRow lastColumn
    rw [Span.lastRow, Span.lastColumn] at stop
    rw [if_neg single, Option.bind_eq_bind, Option.bind_some, if_neg single,
      last_checked row rowSmall, last_checked column columnSmall]
    simp only [Option.bind_eq_bind, Option.bind_some, stop]
    rfl

theorem count_checked {first last : Nat} (ordered : first ≤ last)
    (small : last - first + 1 ≤ Size.largest) : count? first last = some (last - first + 1) := by
  rw [count?, Size.sub_within ordered]
  exact Size.add_within small

def IsSized (span : Span) : Prop :=
  (span.row ≤ Size.largest ∧ span.column ≤ Size.largest) ∧
    span.rows ≤ Size.largest ∧ span.columns ≤ Size.largest

theorem between_checked {rows columns : Nat × Nat} (sized : (between rows columns).IsSized) :
    between? rows columns = some (between rows columns) := by
  obtain ⟨⟨row, column⟩, height, width⟩ := sized
  have top := Size.add_within row
  have left := Size.add_within column
  have tall := count_checked (Nat.le_trans (Nat.min_le_left _ _) (Nat.le_max_left _ _)) height
  have wide := count_checked (Nat.le_trans (Nat.min_le_left _ _) (Nat.le_max_left _ _)) width
  simp only [between?, top, left, tall, wide, Option.bind_eq_bind, Option.bind_some]
  rfl

/-- The reader can only stop where the block that it has found is too large. -/
theorem of_a1_checked {text : String} {maxRows maxColumns : Nat}
    (sized : ∀ span, ofA1 text maxRows maxColumns = .ok span → span.IsSized) :
    checkedOfA1 text maxRows maxColumns = some (ofA1 text maxRows maxColumns) := by
  unfold ofA1 at sized ⊢
  unfold checkedOfA1
  cases read : Reference.ofCharacters? ((Text.trim text.toList).map Char.toUpper) with
  | none => simp only [read]
  | some reference =>
      have stop : (reference.stop.mapM fun corner => ColumnLetters.checkedPosition corner.letters) =
          some (reference.stop.map Corner.column?) := by
        cases reference.stop with
        | none => rfl
        | some corner => simp [ColumnLetters.position_checked, Corner.column?]
      have start : ColumnLetters.checkedPosition reference.start.letters =
          some reference.start.column? := ColumnLetters.position_checked _
      simp only [read] at sized ⊢
      simp only [start, stop, Option.bind_eq_bind, Option.bind_some]
      split
      · rfl
      · rename_i named
        rw [if_neg named] at sized
        rw [between_checked (sized _ rfl)]
        rfl

theorem sized_of_addressable {span : Span} (fits : span.Addressable) : span.IsSized := by
  obtain ⟨-, rowSmall, columnSmall⟩ := fits
  refine ⟨⟨?_, ?_⟩, ?_, ?_⟩ <;> omega

/-- A block that can be addressed is read back from its address, and no step on the way there and
back leaves the sizes. -/
theorem read_back_of_a1 {span : Span} (accepted : span.validated = .ok span)
    (maxRows maxColumns : Nat) :
    ofA1 span.a1 maxRows maxColumns = .ok span ∧ span.checkedA1 = some span.a1 ∧
      checkedOfA1 span.a1 maxRows maxColumns = some (.ok span) := by
  have fits : span.Addressable := by
    unfold validated at accepted
    split at accepted
    · assumption
    · cases accepted
  have plain := of_a1_a1 fits maxRows maxColumns
  refine ⟨plain, a1_checked fits, ?_⟩
  rw [of_a1_checked, plain]
  intro found same
  rw [plain] at same
  cases same
  exact sized_of_addressable fits

def farBlock : Span := ⟨18446744073709551610, 18446744073709551000, 5, 615⟩

theorem far_block_reads_back :
    farBlock.validated = .ok farBlock ∧
      ofA1 farBlock.a1 3 2 = .ok farBlock ∧ farBlock.checkedA1 = some farBlock.a1 ∧
        checkedOfA1 farBlock.a1 3 2 = some (.ok farBlock) :=
  have accepted : farBlock.validated = .ok farBlock := if_pos (by decide)
  ⟨accepted, read_back_of_a1 accepted 3 2⟩

end Span

end GridStore
