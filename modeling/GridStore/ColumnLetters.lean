import GridStore.Size

/-!
Column letters: numbering in base 26 without a zero, so that after `Z` comes `AA`. Positions are
counted from zero here, and every position has exactly one spelling in capital letters.
-/

set_option autoImplicit false

namespace GridStore.ColumnLetters

def letter (digit : Nat) : Char := Char.ofNat ('A'.toNat + digit)

/-- The letters of a position, put in front of `suffix`. -/
def spelledBefore (suffix : List Char) (position : Nat) : List Char :=
  if position < 26 then letter position :: suffix
  else spelledBefore (letter (position % 26) :: suffix) (position / 26 - 1)
termination_by position
decreasing_by omega

def ofPosition (position : Nat) : List Char := spelledBefore [] position

def isLetter (character : Char) : Bool :=
  ('A' ≤ character && character ≤ 'Z') || ('a' ≤ character && character ≤ 'z')

def worth (character : Char) : Nat := character.toUpper.toNat - 'A'.toNat + 1

def valueFrom? (value : Nat) : List Char → Option Nat
  | [] => some value
  | character :: rest =>
      if isLetter character then
        match Size.checked (value * 26 + worth character) with
        | some value => valueFrom? value rest
        | none => none
      else none

/-- The position, counted from zero, that letters of either case spell. -/
def position? (letters : List Char) : Option Nat :=
  if letters.isEmpty then none else (valueFrom? 0 letters).map (· - 1)

end GridStore.ColumnLetters
