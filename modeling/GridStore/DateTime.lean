import GridStore.Number.Read

/-!
Local date and time to the nanosecond, in years before and after the first one. Nothing is computed
with dates here beyond their order, so a date is the list of its fields from the largest to the
smallest, and the order is that of the lists. A leap second is the second before it with a thousand
million nanoseconds and more.
-/

set_option autoImplicit false

namespace GridStore

structure DateTime where
  year : Int
  month : Nat
  day : Nat
  hour : Nat
  minute : Nat
  second : Nat
  nanosecond : Nat
deriving DecidableEq, Repr

namespace DateTime

def midnight (year : Int) (month day : Nat) : DateTime := ⟨year, month, day, 0, 0, 0, 0⟩

def fields (date : DateTime) : List Int :=
  [date.year, date.month, date.day, date.hour, date.minute, date.second, date.nanosecond]

def compare (left right : DateTime) : Ordering := Ord.compare left.fields right.fields

def padded (width value : Nat) : String :=
  let digits := Nat.toDigits 10 value
  String.ofList (List.replicate (width - digits.length) '0' ++ digits)

/-- Four digits, with a sign in front if that is not enough or the year is negative. -/
def yearText (year : Int) : String :=
  if 0 ≤ year ∧ year ≤ 9999 then padded 4 year.toNat
  else (if year < 0 then "-" else "+") ++ padded 4 year.natAbs

def dayText (date : DateTime) : String :=
  yearText date.year ++ "-" ++ padded 2 date.month ++ "-" ++ padded 2 date.day

def timeText (date : DateTime) : String :=
  padded 2 date.hour ++ ":" ++ padded 2 date.minute ++ ":" ++
    padded 2 (date.second + date.nanosecond / 1000000000)

def fractionText (date : DateTime) : String :=
  let fraction := date.nanosecond % 1000000000
  if fraction = 0 then ""
  else if fraction % 1000000 = 0 then "." ++ padded 3 (fraction / 1000000)
  else if fraction % 1000 = 0 then "." ++ padded 6 (fraction / 1000)
  else "." ++ padded 9 fraction

/-- The text of a date in a cell, which leaves the fraction of the second out. -/
def display (date : DateTime) : String := date.dayText ++ " " ++ date.timeText

def isoText (date : DateTime) : String := date.dayText ++ "T" ++ date.timeText ++ date.fractionText

def readDigits? (width : Nat) (text : List Char) : Option (Nat × List Char) :=
  let digits := text.take width
  if digits.length = width ∧ digits.all Char.isDigit then
    some (digitsValue digits, text.drop width)
  else none

def readMark? (mark : Char) : List Char → Option (List Char)
  | [] => none
  | character :: rest => if character = mark then some rest else none

def readDay? (text : List Char) : Option (DateTime × List Char) := do
  let (year, text) ← readDigits? 4 text
  let (month, text) ← readDigits? 2 (← readMark? '-' text)
  let (day, text) ← readDigits? 2 (← readMark? '-' text)
  some (midnight year month day, text)

def readFraction? : List Char → Option Nat
  | [] => some 0
  | text => do
      let (thousandths, rest) ← readDigits? 3 (← readMark? '.' text)
      if rest.isEmpty then some (1000000 * thousandths) else none

/-- Reads the exchange form of a year with four digits, to the thousandth of a second, or a day
alone. -/
def ofText? (text : String) : Option DateTime := do
  let (day, rest) ← readDay? text.toList
  if rest.isEmpty then some day
  else
    let (hour, rest) ← readDigits? 2 (← readMark? 'T' rest)
    let (minute, rest) ← readDigits? 2 (← readMark? ':' rest)
    let (second, rest) ← readDigits? 2 (← readMark? ':' rest)
    let nanosecond ← readFraction? rest
    some { day with hour, minute, second, nanosecond }

end DateTime

end GridStore
