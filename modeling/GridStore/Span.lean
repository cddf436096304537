import GridStore.ColumnLetters
import GridStore.Size

/-!
Rectangular blocks of a grid, by their top-left corner and their extent. Rows and columns are
counted from one. The A1 address of a block names its first cell, and the last one too when there is
more than one.
-/

set_option autoImplicit false

namespace GridStore

structure Span where
  row : Nat
  column : Nat
  rows : Nat
  columns : Nat
deriving DecidableEq, Repr, Inhabited

namespace Span

def lastRow (span : Span) : Nat := span.row + span.rows - 1

def lastColumn (span : Span) : Nat := span.column + span.columns - 1

/-- A block with at least one cell, all of whose positions and their successors are sizes. -/
def Addressable (span : Span) : Prop :=
  (1 ≤ span.row ∧ 1 ≤ span.column ∧ 1 ≤ span.rows ∧ 1 ≤ span.columns) ∧
    span.row + span.rows ≤ Size.largest ∧ span.column + span.columns ≤ Size.largest

instance (span : Span) : Decidable span.Addressable :=
  inferInstanceAs (Decidable ((_ ∧ _ ∧ _ ∧ _) ∧ _ ∧ _))

/-- No row or no column can be part of a block without a first row, column or extent. -/
def isDegenerate (span : Span) : Bool :=
  span.row == 0 || span.column == 0 || span.rows == 0 || span.columns == 0

def covers (span : Span) (row column : Nat) : Bool :=
  span.row ≤ row && row < span.row + span.rows &&
    span.column ≤ column && column < span.column + span.columns

def arguments (span : Span) : String :=
  ",".intercalate [toString span.row, toString span.column, toString span.rows,
    toString span.columns]

def record (span : Span) : String :=
  "Span \x7b row: " ++ toString span.row ++ ", column: " ++ toString span.column ++
    ", rows: " ++ toString span.rows ++ ", columns: " ++ toString span.columns ++ " \x7d"

def reference (row column : Nat) : List Char :=
  ColumnLetters.ofPosition (column - 1) ++ Nat.toDigits 10 row

def a1Characters (span : Span) : List Char :=
  let start := reference span.row span.column
  if span.rows = 1 ∧ span.columns = 1 then start
  else start ++ ':' :: reference span.lastRow span.lastColumn

def a1 (span : Span) : String := String.ofList span.a1Characters

end Span

end GridStore
