import GridStore.Proofs.A1.RoundTrip

/-!
What an address asks for and what its reader makes of it. An address asks for lines by spelling
bounds, and a bound that it leaves out is that of the grid. The reader cannot tell a bound that is
left out from one that names no line, and takes bounds in either order, also when only one of them
was given. Main statement: the block that is read is the one asked for exactly if every spelled
bound names a line, and no block without an end starts below or beside the grid.
-/

set_option autoImplicit false

namespace GridStore

/-- One bound of an address in one direction: its characters, and the position that they name. -/
structure Bound where
  spelling : List Char
  position? : Option Nat

namespace Bound

def line? (bound : Bound) : Option Nat := bound.position?.map (· + 1)

/-- The bound is left out, or it names a line. -/
def IsHonest (bound : Bound) : Prop := bound.spelling ≠ [] → bound.line?.isSome = true

/-- The lines that bounds ask for. Without a bound on some side it is that of the grid, which
counts as having one line at least. -/
def Ask (extent : Nat) (start : Bound) (stop : Option Bound) (first last : Nat) : Prop :=
  match start.line?, stop with
  | some line, none => first = line ∧ last = line
  | none, none => first = 1 ∧ last = max 1 extent
  | some line, some stop =>
      match stop.line? with
      | some other => first = min line other ∧ last = max line other
      | none => first = line ∧ last = max 1 extent
  | none, some stop =>
      match stop.line? with
      | some other => first = 1 ∧ last = other
      | none => first = 1 ∧ last = max 1 extent

def StartInside (extent : Nat) (start : Bound) (stop : Option Bound) : Prop :=
  ∀ line ∈ start.line?, ∀ bound ∈ stop, bound.line? = none → line ≤ max 1 extent

def positions (extent : Nat) (start : Bound) (stop : Option Bound) : Nat × Nat :=
  Reference.bounds extent start.position? (stop.map position?)

theorem ask_iff_start_inside (extent : Nat) (start : Bound) (stop : Option Bound) :
    Ask extent start stop (min (positions extent start stop).1 (positions extent start stop).2 + 1)
        (max (positions extent start stop).1 (positions extent start stop).2 + 1) ↔
      StartInside extent start stop := by
  obtain ⟨spelling, first⟩ := start
  unfold Ask StartInside positions Reference.bounds line?
  cases first with
  | none =>
      rcases stop with _ | ⟨other, _ | last⟩
      · simp
        omega
      · simp
        omega
      · simp
  | some first =>
      rcases stop with _ | ⟨other, _ | last⟩
      · simp
      · simp
        omega
      · simp

end Bound

namespace Corner

def rowBound (corner : Corner) : Bound := ⟨corner.digits, corner.row?⟩

def columnBound (corner : Corner) : Bound := ⟨corner.letters, corner.column?⟩

def IsHonest (corner : Corner) : Prop := corner.rowBound.IsHonest ∧ corner.columnBound.IsHonest

end Corner

namespace Reference

def IsHonest (reference : Reference) : Prop :=
  reference.start.IsHonest ∧ ∀ corner ∈ reference.stop, corner.IsHonest

/-- The block that an address asks for: all its bounds name lines, and the block lies between
them. -/
def AsksFor (reference : Reference) (maxRows maxColumns : Nat) (span : Span) : Prop :=
  reference.IsHonest ∧
    Bound.Ask maxRows reference.start.rowBound (reference.stop.map Corner.rowBound)
      span.row span.lastRow ∧
    Bound.Ask maxColumns reference.start.columnBound (reference.stop.map Corner.columnBound)
      span.column span.lastColumn

def StartsInside (reference : Reference) (maxRows maxColumns : Nat) : Prop :=
  Bound.StartInside maxRows reference.start.rowBound (reference.stop.map Corner.rowBound) ∧
    Bound.StartInside maxColumns reference.start.columnBound
      (reference.stop.map Corner.columnBound)

def ofText? (text : String) : Option Reference :=
  ofCharacters? ((Text.trim text.toList).map Char.toUpper)

end Reference

namespace Span

section Lines

variable (rows columns : Nat × Nat)

theorem last_row_between : (between rows columns).lastRow = max rows.1 rows.2 + 1 := by
  simp only [lastRow, between]
  omega

theorem last_column_between :
    (between rows columns).lastColumn = max columns.1 columns.2 + 1 := by
  simp only [lastColumn, between]
  omega

end Lines

/-- An address has to name its first row or its first column; everything else may be missing. -/
theorem of_a1_ok_iff {text : String} {maxRows maxColumns : Nat} {span : Span} :
    ofA1 text maxRows maxColumns = .ok span ↔
      ∃ reference, Reference.ofText? text = some reference ∧
        (reference.start.row?.isNone && reference.start.column?.isNone) = false ∧
        span = between
          (Bound.positions maxRows reference.start.rowBound (reference.stop.map Corner.rowBound))
          (Bound.positions maxColumns reference.start.columnBound
            (reference.stop.map Corner.columnBound)) := by
  have rows : ∀ reference : Reference, (reference.stop.map Corner.rowBound).map Bound.position? =
      reference.stop.map Corner.row? := fun reference => Option.map_map _ _ _
  have columns : ∀ reference : Reference,
      (reference.stop.map Corner.columnBound).map Bound.position? =
        reference.stop.map Corner.column? := fun reference => Option.map_map _ _ _
  simp only [Bound.positions, rows, columns]
  unfold ofA1 Reference.ofText?
  dsimp only
  cases Reference.ofCharacters? ((Text.trim text.toList).map Char.toUpper) with
  | none => simp
  | some reference =>
      cases named : reference.start.row?.isNone && reference.start.column?.isNone with
      | true =>
          simp only [named, if_true]
          constructor
          · intro failed
            cases failed
          · rintro ⟨other, same, unnamed, -⟩
            cases same
            rw [named] at unnamed
            cases unnamed
      | false =>
          simp only [named, Bool.false_eq_true, if_false, Except.ok.injEq]
          constructor
          · intro same
            exact ⟨reference, rfl, named, same.symm⟩
          · rintro ⟨other, same, -, block⟩
            cases same
            exact block.symm

/-- The block read from an address is the one that the address asks for, unless a bound names no
line and has been taken for one that is left out, or an open block starts past the grid and has
been turned round. -/
theorem asked_for_iff {text : String} {maxRows maxColumns : Nat} {span : Span}
    (read : ofA1 text maxRows maxColumns = .ok span) :
    ∃ reference, Reference.ofText? text = some reference ∧
      (reference.AsksFor maxRows maxColumns span ↔
        reference.IsHonest ∧ reference.StartsInside maxRows maxColumns) := by
  obtain ⟨reference, spelled, -, rfl⟩ := of_a1_ok_iff.1 read
  have rows := Bound.ask_iff_start_inside maxRows reference.start.rowBound
    (reference.stop.map Corner.rowBound)
  have columns := Bound.ask_iff_start_inside maxColumns reference.start.columnBound
    (reference.stop.map Corner.columnBound)
  refine ⟨reference, spelled, ?_⟩
  rw [Reference.AsksFor, Reference.StartsInside, last_row_between, last_column_between,
    ← rows, ← columns]
  rfl

theorem open_block_is_asked_for :
    ofA1 "b2:D" 9 26 = .ok ⟨2, 2, 8, 3⟩ ∧
      ∃ reference, Reference.ofText? "b2:D" = some reference ∧
        (reference.AsksFor 9 26 ⟨2, 2, 8, 3⟩ ↔
          reference.IsHonest ∧ reference.StartsInside 9 26) := by
  have read : ofA1 "b2:D" 9 26 = .ok ⟨2, 2, 8, 3⟩ := by decide
  exact ⟨read, asked_for_iff read⟩

/-- The reader passes over a row 0 and over a start past the last row. -/
theorem bounds_not_honoured :
    (∃ reference, Reference.ofText? "A1:B0" = some reference ∧
      ofA1 "A1:B0" 100 26 = .ok ⟨1, 1, 100, 2⟩ ∧ ¬reference.AsksFor 100 26 ⟨1, 1, 100, 2⟩) ∧
    ∃ reference, Reference.ofText? "A5:C" = some reference ∧
      ofA1 "A5:C" 2 3 = .ok ⟨2, 1, 4, 3⟩ ∧ ¬reference.AsksFor 2 3 ⟨2, 1, 4, 3⟩ := by
  have zeroRow : Reference.ofText? "A1:B0" = some ⟨⟨['A'], ['1']⟩, some ⟨['B'], ['0']⟩⟩ := by
    decide
  have openEnd : Reference.ofText? "A5:C" = some ⟨⟨['A'], ['5']⟩, some ⟨['C'], []⟩⟩ := by
    decide
  refine ⟨⟨_, zeroRow, by decide, ?_⟩, _, openEnd, by decide, ?_⟩
  · rintro ⟨⟨-, honest⟩, -⟩
    have named := (honest _ rfl).1 (by decide)
    revert named
    decide
  · rintro ⟨-, ⟨first, -⟩, -⟩
    revert first
    decide

end Span

end GridStore
