import GridStore.Error
import GridStore.Text.Character

/-!
Reading A1 addresses: single cells, blocks, whole rows and columns, and blocks with an open end.

A bound that the text leaves out, or spells in a way that names no row or column, is taken from
the extent of the grid.
-/

set_option autoImplicit false

namespace GridStore

/-- One side of an address as written: column letters, then a row number. -/
structure Corner where
  letters : List Char
  digits : List Char
deriving DecidableEq, Repr

namespace Corner

def column? (corner : Corner) : Option Nat := ColumnLetters.position? corner.letters

/-- The row of a corner, counted from zero. There is no row 0 in an address, and digits of other
scripts name no row. -/
def row? (corner : Corner) : Option Nat :=
  match Size.ofDigits? corner.digits with
  | some (row + 1) => some row
  | _ => none

def isCapital (character : Char) : Bool := 'A' ≤ character && character ≤ 'Z'

def read (text : List Char) : Corner × List Char :=
  let (letters, rest) := text.span isCapital
  let (digits, rest) := rest.span Text.isDecimalDigit
  (⟨letters, digits⟩, rest)

end Corner

/-- An address as written. A colon makes an end, even when nothing follows it. -/
structure Reference where
  start : Corner
  stop : Option Corner
deriving DecidableEq, Repr

namespace Reference

def ofCharacters? (text : List Char) : Option Reference :=
  match Corner.read text with
  | (start, []) => some ⟨start, none⟩
  | (start, ':' :: rest) =>
      match Corner.read rest with
      | (stop, []) => some ⟨start, some stop⟩
      | _ => none
  | _ => none

/-- The positions covered in one direction, from the bounds that the text spells out. -/
def bounds (extent : Nat) (start : Option Nat) (stop : Option (Option Nat)) : Nat × Nat :=
  match stop, start with
  | none, some position => (position, position)
  | none, none => (0, extent - 1)
  | some stop, start => (start.getD 0, stop.getD (extent - 1))

end Reference

namespace Span

/-- The block from one pair of positions to another, in either order. -/
def between (rows columns : Nat × Nat) : Span :=
  let row := min rows.1 rows.2
  let column := min columns.1 columns.2
  { row := row + 1
    column := column + 1
    rows := max rows.1 rows.2 - row + 1
    columns := max columns.1 columns.2 - column + 1 }

def ofA1 (text : String) (maxRows maxColumns : Nat) : Except RangeError Span :=
  let characters := (Text.trim text.toList).map Char.toUpper
  let failure := RangeError.badFormat (String.ofList characters)
  match Reference.ofCharacters? characters with
  | none => .error failure
  | some reference =>
      let row := reference.start.row?
      let column := reference.start.column?
      if row.isNone && column.isNone then .error failure
      else
        .ok (between (Reference.bounds maxRows row (reference.stop.map Corner.row?))
          (Reference.bounds maxColumns column (reference.stop.map Corner.column?)))

def validated (span : Span) : Except RangeError Span :=
  if span.Addressable then .ok span else .error (.incorrect span.arguments)

end Span

end GridStore
