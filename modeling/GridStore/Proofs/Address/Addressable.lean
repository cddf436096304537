import GridStore.Proofs.A1.Bounds
import GridStore.Proofs.A1.Checked
import GridStore.Proofs.Address.Known
import GridStore.Proofs.Region.Steps

/-!
Which resolved blocks can be addressed. What tokens or a function have been resolved to is validated
at the end, what an A1 text has been read as is not. Main statement: every block found has a cell
and ends at a line that is a size, and it can be addressed, which also takes the line after, exactly
if it is not an A1 text that reaches the last line of all.
-/

set_option autoImplicit false

namespace GridStore

theorem Size.checked_within {value size : Nat} (checked : Size.checked value = some size) :
    size ≤ Size.largest := by
  unfold Size.checked at checked
  split at checked
  · rename_i small
    exact Option.some.inj checked ▸ small
  · cases checked

theorem Size.of_digits_within {digits : List Char} {size : Nat}
    (read : Size.ofDigits? digits = some size) : size ≤ Size.largest := by
  unfold Size.ofDigits? at read
  split at read
  · cases read
  · exact Size.checked_within read

theorem ColumnLetters.value_from_within {value result : Nat} {letters : List Char}
    (small : value ≤ Size.largest) (read : valueFrom? value letters = some result) :
    result ≤ Size.largest := by
  induction letters generalizing value with
  | nil => exact Option.some.inj read ▸ small
  | cons character rest induction =>
      rw [value_from_cons] at read
      split at read
      · cases checked : Size.checked (value * 26 + worth character) with
        | none =>
            rw [checked] at read
            cases read
        | some next =>
            rw [checked] at read
            exact induction (Size.checked_within checked) read
      · cases read

namespace Corner

theorem row_below {corner : Corner} {position : Nat} (named : corner.row? = some position) :
    position < Size.largest := by
  unfold row? at named
  split at named
  · rename_i row read
    cases named
    exact Size.of_digits_within read
  · cases named

theorem column_below {corner : Corner} {position : Nat} (named : corner.column? = some position) :
    position < Size.largest := by
  unfold column? ColumnLetters.position? at named
  split at named
  · cases named
  · rename_i spelled
    obtain ⟨value, read, rfl⟩ := Option.map_eq_some_iff.1 named
    have length : corner.letters.length ≠ 0 := by simpa [List.isEmpty_iff] using spelled
    have grown := ColumnLetters.value_grows read
    have within := ColumnLetters.value_from_within (Nat.zero_le _) read
    omega

end Corner

namespace Bound

def lastLine (extent : Nat) (start : Bound) (stop : Option Bound) : Nat :=
  max (positions extent start stop).1 (positions extent start stop).2 + 1

theorem below_get_d {limit default : Nat} {value? : Option Nat}
    (value : ∀ size ∈ value?, size < limit)
    (other : default < limit) : value?.getD default < limit := by
  cases value? with
  | none => exact other
  | some size => exact value size rfl

theorem positions_below {extent limit : Nat} {start : Bound} {stop : Option Bound}
    (sized : extent - 1 < limit) (first : ∀ position ∈ start.position?, position < limit)
    (last : ∀ bound ∈ stop, ∀ position ∈ bound.position?, position < limit) :
    (positions extent start stop).1 < limit ∧ (positions extent start stop).2 < limit := by
  have positive : 0 < limit := Nat.lt_of_le_of_lt (Nat.zero_le _) sized
  unfold positions Reference.bounds
  cases stop with
  | none =>
      cases named : start.position? with
      | none => exact ⟨positive, sized⟩
      | some position => exact ⟨first position named, first position named⟩
  | some stop => exact ⟨below_get_d first positive, below_get_d (last stop rfl) sized⟩

theorem last_line_within {extent : Nat} {start : Bound} {stop : Option Bound}
    (sized : extent ≤ Size.largest) (first : ∀ position ∈ start.position?, position < Size.largest)
    (last : ∀ bound ∈ stop, ∀ position ∈ bound.position?, position < Size.largest) :
    lastLine extent start stop ≤ Size.largest := by
  have positive : 0 < Size.largest := by decide
  have inside : extent - 1 < Size.largest := by omega
  exact Nat.max_lt.2 (positions_below inside first last)

end Bound

namespace Reference

/-- The address reaches the last line that a size can number, so that no size follows. -/
def ReachesLastLine (reference : Reference) (maxRows maxColumns : Nat) : Prop :=
  Bound.lastLine maxRows reference.start.rowBound (reference.stop.map Corner.rowBound) =
      Size.largest ∨
    Bound.lastLine maxColumns reference.start.columnBound
      (reference.stop.map Corner.columnBound) = Size.largest

end Reference

namespace Span

/-- A block between positions has a cell, and its last lines decide whether it can be addressed. -/
theorem addressable_between_iff (rows columns : Nat × Nat) :
    (between rows columns).Addressable ↔
      max rows.1 rows.2 + 1 < Size.largest ∧ max columns.1 columns.2 + 1 < Size.largest := by
  simp only [Addressable, between]
  omega

theorem addressable_of_a1 {text : String} {maxRows maxColumns : Nat} {span : Span}
    (rowsSized : maxRows ≤ Size.largest) (columnsSized : maxColumns ≤ Size.largest)
    (read : ofA1 text maxRows maxColumns = .ok span) :
    (1 ≤ span.row ∧ 1 ≤ span.column ∧ 1 ≤ span.rows ∧ 1 ≤ span.columns) ∧
      span.lastRow ≤ Size.largest ∧ span.lastColumn ≤ Size.largest ∧
      ∃ reference, Reference.ofText? text = some reference ∧
        (span.Addressable ↔ ¬reference.ReachesLastLine maxRows maxColumns) := by
  obtain ⟨reference, spelled, -, rfl⟩ := of_a1_ok_iff.1 read
  have lastRow : Bound.lastLine maxRows reference.start.rowBound
      (reference.stop.map Corner.rowBound) ≤ Size.largest := by
    refine Bound.last_line_within rowsSized (fun _ named => Corner.row_below named) ?_
    intro bound member position named
    obtain ⟨corner, -, rfl⟩ := Option.map_eq_some_iff.1 member
    exact Corner.row_below named
  have lastColumn : Bound.lastLine maxColumns reference.start.columnBound
      (reference.stop.map Corner.columnBound) ≤ Size.largest := by
    refine Bound.last_line_within columnsSized (fun _ named => Corner.column_below named) ?_
    intro bound member position named
    obtain ⟨corner, -, rfl⟩ := Option.map_eq_some_iff.1 member
    exact Corner.column_below named
  rw [last_row_between, last_column_between]
  refine ⟨⟨?_, ?_, ?_, ?_⟩, lastRow, lastColumn, reference, spelled, ?_⟩
  · exact Nat.le_add_left 1 _
  · exact Nat.le_add_left 1 _
  · exact Nat.le_add_left 1 _
  · exact Nat.le_add_left 1 _
  · rw [addressable_between_iff, Reference.ReachesLastLine]
    unfold Bound.lastLine at lastRow lastColumn ⊢
    omega

end Span

namespace Address

variable {grid : Grid} {cache final : MetricCache}

/-- The address that is resolved in the end: a text in the first place may hold several parts. -/
def parted (address : Address) : Address :=
  match address.row with
  | .text content => if content.toList.contains ',' then split content.toList else address
  | _ => address

/-- The text that is read as an A1 address: it is no number, and there is no column beside it. -/
def a1Text? (address : Address) : Option String :=
  match address.parted.row with
  | .text content =>
      if address.parted.row.isPresent && address.parted.column.isPresent then none
      else if (lenientNumber? content.toList).isNone then some content
      else none
  | _ => none

theorem resolve_parted (grid : Grid) (address : Address) :
    resolve grid address = resolveParts grid address.parted := by
  obtain ⟨row, column, rows, columns⟩ := address
  unfold resolve parted
  cases row with
  | text content => cases joined : content.toList.contains ',' <;> simp only [joined] <;> rfl
  | missing => rfl
  | number value => rfl
  | resolver find => rfl

theorem resolve_a1_text {address : Address} {text : String} (named : address.a1Text? = some text) :
    resolve grid address = resolveA1 grid text := by
  rw [resolve_parted]
  unfold a1Text? at named
  generalize address.parted = parted at named ⊢
  obtain ⟨row, column, rows, columns⟩ := parted
  cases row with
  | text content =>
      simp only at named
      split at named
      · cases named
      · rename_i absent
        split at named
        · rename_i noNumber
          cases named
          simp only [resolveParts, if_neg absent, if_pos noNumber]
        · cases named
  | missing => cases named
  | number value => cases named
  | resolver find => cases named

theorem addressable_of_tokens {address : Address} {span : Span}
    (resolved : resolveTokens grid address cache = .ok span final) : span.Addressable := by
  obtain ⟨_, _, _, _, _, _, _, -, -, -, -, -, -, fits⟩ := resolve_tokens_ok_iff.1 resolved
  exact fits

theorem addressable_of_find {find : Grid → Except String Span} {column rows columns : AddressToken}
    {span : Span}
    (resolved : resolveParts grid ⟨.resolver find, column, rows, columns⟩ cache = .ok span final) :
    span.Addressable := by
  obtain ⟨found, middle, -, validated⟩ := Action.bind_ok_iff.1 resolved
  obtain ⟨fits, rfl⟩ := Span.validated_ok_iff.1 (Action.of_except_ok_iff.1 validated).1
  exact fits

/-- Whatever is not read as an A1 text is validated in the end. -/
theorem addressable_of_resolved {address : Address} {span : Span}
    (unnamed : address.a1Text? = none) (resolved : resolve grid address cache = .ok span final) :
    span.Addressable := by
  rw [resolve_parted] at resolved
  unfold a1Text? at unnamed
  generalize address.parted = parted at unnamed resolved
  obtain ⟨row, column, rows, columns⟩ := parted
  by_cases present : (row.isPresent && column.isPresent) = true
  · cases row with
    | resolver find => exact addressable_of_find resolved
    | missing => cases present
    | number value =>
        simp only [resolveParts, if_pos present] at resolved
        exact addressable_of_tokens resolved
    | text content =>
        simp only [resolveParts, if_pos present] at resolved
        exact addressable_of_tokens resolved
  · cases row with
    | resolver find => exact addressable_of_find resolved
    | missing => simp [resolveParts, present] at resolved
    | number value => simp [resolveParts, present] at resolved
    | text content =>
        simp only [if_neg present] at unnamed
        split at unnamed
        · cases unnamed
        · rename_i number
          simp [resolveParts, present, number] at resolved

/-- A text that is read as an A1 address becomes what it is read as, for the extent that is
known. -/
theorem resolve_a1_ok_iff {address : Address} {text : String} {span : Span}
    (named : address.a1Text? = some text) :
    (∃ final, resolve grid address cache = .ok span final) ↔
      Span.ofA1 text (cache.known grid .maxRows) (cache.known grid .maxColumns) = .ok span := by
  have columns : ((cache.measure grid .maxRows).2.measure grid .maxColumns).1 =
      cache.known grid .maxColumns :=
    congrFun (MetricCache.known_after_measure cache grid .maxRows) .maxColumns
  rw [resolve_a1_text named, resolveA1, Action.bind_of_ok (measured_apply _),
    Action.bind_of_ok (measured_apply _), columns]
  constructor
  · rintro ⟨final, read⟩
    exact (Action.of_except_ok_iff.1 read).1
  · intro read
    exact ⟨_, Action.of_except_ok_iff.2 ⟨read, rfl⟩⟩

def ReachesLastLine (address : Address) (metrics : Metric → Nat) : Prop :=
  ∃ text ∈ address.a1Text?, ∃ reference ∈ Reference.ofText? text,
    reference.ReachesLastLine (metrics .maxRows) (metrics .maxColumns)

end Address

namespace Sheet

variable {sheet after : Sheet} {address : Address} {span : Span}

theorem range_of_a1 {text : String} (named : address.a1Text? = some text)
    (read : Span.ofA1 text (sheet.known .maxRows) (sheet.known .maxColumns) = .ok span) :
    ∃ after, Sheet.range address sheet = .ok span after := by
  obtain ⟨cache, resolved⟩ := (Address.resolve_a1_ok_iff named).2 read
  exact ⟨_, Region.range_ok_iff.2 ⟨cache, resolved, rfl⟩⟩

/-- A block that a sheet finds has a cell and ends at a line that is a size. It can be addressed,
which takes another line after that, unless it comes from an A1 text and there is none. -/
theorem range_addressable_iff
    (sized : sheet.known .maxRows ≤ Size.largest ∧ sheet.known .maxColumns ≤ Size.largest)
    (found : Sheet.range address sheet = .ok span after) :
    (1 ≤ span.row ∧ 1 ≤ span.column ∧ 1 ≤ span.rows ∧ 1 ≤ span.columns) ∧
      (span.lastRow ≤ Size.largest ∧ span.lastColumn ≤ Size.largest) ∧
      (span.validated = .ok span ↔ ¬address.ReachesLastLine sheet.known) := by
  obtain ⟨cache, resolved, rfl⟩ := Region.range_ok_iff.1 found
  have accepted : span.validated = .ok span ↔ span.Addressable := by
    rw [Span.validated_ok_iff]
    exact and_iff_left rfl
  rw [accepted]
  cases named : address.a1Text? with
  | none =>
      have fits := Address.addressable_of_resolved named resolved
      have ends := fits.2
      refine ⟨fits.1, ?_, iff_of_true fits ?_⟩
      · unfold Span.lastRow Span.lastColumn
        omega
      · rintro ⟨text, member, -⟩
        rw [named] at member
        cases member
  | some text =>
      have read := (Address.resolve_a1_ok_iff named).1 ⟨cache, resolved⟩
      obtain ⟨positive, lastRow, lastColumn, reference, spelled, fits⟩ :=
        Span.addressable_of_a1 sized.1 sized.2 read
      refine ⟨positive, ⟨lastRow, lastColumn⟩, fits.trans (not_congr ?_)⟩
      constructor
      · intro reaches
        exact ⟨text, named, reference, spelled, reaches⟩
      · rintro ⟨other, same, corners, known, reaches⟩
        rw [named] at same
        cases same
        rw [spelled] at known
        cases known
        exact reaches

def small : Sheet := ⟨Grid.blank "data" 4 3, .empty⟩

theorem small_sized :
    small.known .maxRows ≤ Size.largest ∧ small.known .maxColumns ≤ Size.largest := by decide

/-- The cell in the first column of the last row but one that a size can number. -/
def lastButOne : Span := ⟨18446744073709551614, 1, 1, 1⟩

theorem last_but_one_is_addressable :
    ∃ after, Sheet.range (.ofText "A18446744073709551614") small = .ok lastButOne after ∧
      (1 ≤ lastButOne.row ∧ 1 ≤ lastButOne.column ∧ 1 ≤ lastButOne.rows ∧
        1 ≤ lastButOne.columns) ∧
      (lastButOne.lastRow ≤ Size.largest ∧ lastButOne.lastColumn ≤ Size.largest) ∧
      (lastButOne.validated = .ok lastButOne ↔
        ¬(Address.ofText "A18446744073709551614").ReachesLastLine small.known) := by
  have named : (Address.ofText "A18446744073709551614").a1Text? =
      some "A18446744073709551614" := by decide +kernel
  have read : Span.ofA1 "A18446744073709551614" (small.known .maxRows) (small.known .maxColumns) =
      .ok lastButOne := by decide +kernel
  obtain ⟨after, found⟩ := range_of_a1 named read
  exact ⟨after, found, range_addressable_iff small_sized found⟩

/-- The row after it is found too, although no size is left for the row behind it. -/
theorem last_row_is_not_addressable :
    ∃ after, Sheet.range (.ofText "A18446744073709551615") small =
        .ok ⟨18446744073709551615, 1, 1, 1⟩ after ∧
      Span.validated ⟨18446744073709551615, 1, 1, 1⟩ =
        .error (.incorrect "18446744073709551615,1,1,1") := by
  have named : (Address.ofText "A18446744073709551615").a1Text? =
      some "A18446744073709551615" := by decide +kernel
  have read : Span.ofA1 "A18446744073709551615" (small.known .maxRows) (small.known .maxColumns) =
      .ok ⟨18446744073709551615, 1, 1, 1⟩ := by decide +kernel
  have refused : Span.validated ⟨18446744073709551615, 1, 1, 1⟩ =
      .error (.incorrect "18446744073709551615,1,1,1") := by decide +kernel
  obtain ⟨after, found⟩ := range_of_a1 named read
  exact ⟨after, found, refused⟩

end Sheet

end GridStore
