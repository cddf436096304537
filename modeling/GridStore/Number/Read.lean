import GridStore.Number.Decimal

/-!
Reading a number from decimal text. Any number of digits is taken into account: the result is
the number nearest to the exact decimal.
-/

set_option autoImplicit false

namespace GridStore

def digitValue (digit : Char) : Nat := digit.toNat - '0'.toNat

def digitsValue (digits : List Char) : Nat :=
  digits.foldl (fun value digit => 10 * value + digitValue digit) 0

namespace Number

def readSign : List Char → Bool × List Char
  | '-' :: rest => (true, rest)
  | '+' :: rest => (false, rest)
  | text => (false, text)

def readExponent? : List Char → Option Int
  | [] => some 0
  | mark :: rest =>
      let (negative, digits) := readSign rest
      if (mark == 'e' || mark == 'E') && !digits.isEmpty && digits.all Char.isDigit then
        some (if negative then -(digitsValue digits : Int) else digitsValue digits)
      else none

/-- Reads an optional sign, digits with at most one point among them or at either end, and an
optional exponent. At least one digit has to stand before the exponent. -/
def ofChars? (text : List Char) : Option Number := do
  let (negative, unsigned) := readSign text
  let whole := unsigned.takeWhile Char.isDigit
  let (fraction, rest) := match unsigned.dropWhile Char.isDigit with
    | '.' :: rest => rest.span Char.isDigit
    | rest => ([], rest)
  let exponent ← readExponent? rest
  if whole.isEmpty && fraction.isEmpty then none
  else some (ofDecimal negative (digitsValue (whole ++ fraction)) (exponent - fraction.length))

def ofText? (text : String) : Option Number :=
  if text = "NaN" then some .nan
  else if text = "inf" then some (.infinite false)
  else if text = "-inf" then some (.infinite true)
  else ofChars? text.toList

end Number

end GridStore
