import GridStore.Json.Document

/-!
The value of a JSON document. Not every document has one: nesting is limited, strings have to be
well-formed, and numbers have to be finite.

A floating-point literal is read with one 64-bit significand and a power of ten, so very long
literals may come out as a neighbour of the nearest number.
-/

set_option autoImplicit false

namespace GridStore

/-- The largest 64-bit significand, `2 ^ 64 - 1`. -/
def significandLimit : Nat := 18446744073709551615

def takeSignificand (significand : Nat) : List Char → Nat × List Char
  | [] => (significand, [])
  | digit :: rest =>
      let next := significand * 10 + digitValue digit
      if significandLimit < next then (significand, digit :: rest) else takeSignificand next rest

namespace Number

/-- Scales a significand by a power of ten, at most 308 at a time: `none` when the result is too
large. A significand has vanished after the second step down, so the steps can stop there. -/
def scaled? (value : Number) (exponent : Int) : Option Number :=
  if exponent.natAbs ≤ 308 then
    let power := Number.ofDecimal false 1 exponent.natAbs
    if 0 ≤ exponent then
      let product := value.mul power
      if product.isFinite then some product else none
    else some (value.div power)
  else if value.isZero then some value
  else if 0 ≤ exponent then none
  else scaled? (value.div (Number.ofDecimal false 1 308)) (exponent + 308)
termination_by exponent.natAbs

end Number

namespace NumberLiteral

/-- The largest exponent that is taken at its word, `2 ^ 31 - 1`. -/
def exponentLimit : Nat := 2147483647

def saturated (exponent : Int) : Int :=
  max (-(exponentLimit : Int) - 1) (min exponentLimit exponent)

def signed (literal : NumberLiteral) (value : Number) : Number :=
  if literal.negative then value.neg else value

def float? (literal : NumberLiteral) : Option Number := do
  let (whole, dropped) := takeSignificand 0 literal.whole
  let (significand, ignored) := takeSignificand whole literal.fraction
  let shift : Int := dropped.length - (literal.fraction.length - ignored.length : Nat)
  let value := Number.ofNat significand
  let scaled ← match literal.exponent with
    | none => value.scaled? shift
    | some (negative, digits) =>
        let size := digitsValue digits
        if exponentLimit < size then
          if significand ≠ 0 ∧ negative = false then none else some (.zero false)
        else value.scaled? (saturated (if negative then shift - size else shift + size))
  some (literal.signed scaled)

/-- The magnitude of the smallest 64-bit integer, `2 ^ 63`. -/
def negativeLimit : Nat := 9223372036854775808

/-- Integers of 64 bits stay integers, except for a negative zero. -/
def numeral? (literal : NumberLiteral) : Option Numeral :=
  let size := digitsValue literal.whole
  if literal.fraction.isEmpty && literal.exponent.isNone then
    if literal.negative then
      if size ≠ 0 ∧ size ≤ negativeLimit then some (.negative size)
      else if size ≤ significandLimit then some (.float (.neg (.ofNat size)))
      else literal.float?.map .float
    else if size ≤ significandLimit then some (.natural size)
    else literal.float?.map .float
  else literal.float?.map .float

end NumberLiteral

namespace Json

def nestingLimit : Nat := 127

end Json

namespace Document

mutual

def value? (levels : Nat) : Document → Option Json
  | .null => some .null
  | .boolean value => some (.boolean value)
  | .number literal => literal.numeral?.map .number
  | .string content => content.map .string
  | .array items =>
      if levels = 0 then none else (itemValues? (levels - 1) items).map .array
  | .object members =>
      if levels = 0 then none
      else (memberValues? (levels - 1) members).map fun members => .object (Fields.ofList members)

def itemValues? (levels : Nat) : List Document → Option (List Json)
  | [] => some []
  | item :: rest => do
      let item ← value? levels item
      let rest ← itemValues? levels rest
      some (item :: rest)

def memberValues? (levels : Nat) : List (Option String × Document) → Option (List (String × Json))
  | [] => some []
  | (name, member) :: rest => do
      let name ← name
      let member ← value? levels member
      let rest ← memberValues? levels rest
      some ((name, member) :: rest)

end

end Document

def Json.ofText? (text : String) : Option Json := do
  (← Document.ofText? text).value? Json.nestingLimit

end GridStore
