import GridStore.DateTime
import GridStore.Json.Basic

/-!
Cells of a grid: their kinds, order and text.

A blank cell and an empty string are interchangeable: they are equal, compare alike and show the
same text. Values of different kinds are neither equal nor ordered.
-/

set_option autoImplicit false

namespace GridStore

inductive Cell where
  | empty
  | boolean (value : Bool)
  | number (value : Number)
  | string (value : String)
  | date (value : DateTime)
deriving DecidableEq

instance : Inhabited Cell := ⟨.empty⟩

namespace Cell

/-- Blank in the eyes of the grid, which takes an empty string for a blank. -/
def isBlank : Cell → Bool
  | .empty => true
  | .string value => value.isEmpty
  | _ => false

def asString? : Cell → Option String
  | .empty => some ""
  | .string value => some value
  | _ => none

def asNumber? : Cell → Option Number
  | .number value => some value
  | _ => none

def asBoolean? : Cell → Option Bool
  | .boolean value => some value
  | _ => none

def asDate? : Cell → Option DateTime
  | .date value => some value
  | _ => none

/-- The order within a kind. Blanks order as the empty string, and different kinds do not
compare. -/
def compare : Cell → Cell → Option Ordering
  | .number left, .number right => left.compare right
  | .boolean left, .boolean right => some (Ord.compare left right)
  | .date left, .date right => some (left.compare right)
  | left, right => do some (Ord.compare (← left.asString?) (← right.asString?))

def equals : Cell → Cell → Bool
  | .number left, .number right => left.equals right
  | .boolean left, .boolean right => left == right
  | .date left, .date right => left == right
  | left, right =>
      match left.asString?, right.asString? with
      | some left, some right => left == right
      | _, _ => false

def comparesAs (accepted : List Ordering) (left right : Cell) : Bool :=
  (left.compare right).any accepted.contains

def display : Cell → String
  | .empty => ""
  | .boolean value => if value then "true" else "false"
  | .number value => value.display
  | .string value => value
  | .date value => value.display

def jsonText : Cell → String
  | .empty => "null"
  | .boolean value => if value then "true" else "false"
  | .number value => value.jsonText
  | .string value => Json.stringText value
  | .date value => Json.stringText value.isoText

/-- The cell for a JSON value. Arrays and objects have no cell of their own and are kept as
their text. -/
def ofJson : Json → Cell
  | .null => .empty
  | .boolean value => .boolean value
  | .number value => .number value.toNumber
  | .string value => .string value
  | other => .string other.compact

def ofNat (value : Nat) : Cell := .number (.ofNat value)

def ofInt (value : Int) : Cell := .number (.ofInt value)

end Cell

abbrev Row := List Cell

end GridStore
