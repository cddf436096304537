import GridStore.Number.Decimal

/-!
The text of a number: as a cell shows it, always positional and without a point when whole, and
as a JSON document writes it, with a point or an exponent so that it stays recognisable as a
floating-point number.
-/

set_option autoImplicit false

namespace GridStore

/-- Digits before and after the decimal point; there is always one before it. -/
def Decimal.positional (decimal : Decimal) : List Char × List Char :=
  let digits := Nat.toDigits 10 decimal.digits
  if 0 ≤ decimal.exponent then (digits ++ List.replicate decimal.exponent.toNat '0', [])
  else
    let places := (-decimal.exponent).toNat
    let padded := List.replicate (places + 1 - digits.length) '0' ++ digits
    padded.splitAt (padded.length - places)

def Decimal.leadingExponent (decimal : Decimal) : Int :=
  decimal.exponent + (Nat.toDigits 10 decimal.digits).length - 1

def Decimal.scientific (decimal : Decimal) : List Char :=
  let mantissa := match Nat.toDigits 10 decimal.digits with
    | leading :: rest => leading :: (if rest.isEmpty then [] else '.' :: rest)
    | [] => []
  let leading := decimal.leadingExponent
  let sign := if leading < 0 then '-' else '+'
  mantissa ++ 'e' :: sign :: Nat.toDigits 10 leading.natAbs

namespace Number

def signed (negative : Bool) (text : List Char) : List Char :=
  if negative then '-' :: text else text

/-- The text of a number in a cell. An equally near last digit rounds away from zero. -/
def display : Number → String
  | .nan => "NaN"
  | .infinite negative => String.ofList (signed negative ['i', 'n', 'f'])
  | .finite negative magnitude =>
      let (whole, fraction) := (magnitude.shortest .awayFromZero).positional
      String.ofList (signed negative
        (if fraction.isEmpty then whole else whole ++ '.' :: fraction))

/-- The text of a number in a JSON document, which knows neither `nan` nor infinities.
Leading exponents from -5 to 15 are written positionally. -/
def jsonText : Number → String
  | .finite negative magnitude =>
      let decimal := magnitude.shortest .toEven
      let leading := decimal.leadingExponent
      if -5 ≤ leading ∧ leading ≤ 15 then
        let (whole, fraction) := decimal.positional
        String.ofList (signed negative
          (whole ++ '.' :: (if fraction.isEmpty then ['0'] else fraction)))
      else String.ofList (signed negative decimal.scientific)
  | _ => "null"

end Number

end GridStore
