import GridStore.Number.Basic

/-!
Arithmetic and order of numbers. Every operation on finite numbers is exact up to one final
rounding, and the usual rules hold at the edges: infinities of opposite sign cancel to `nan`,
a quotient by zero is infinite, and a sum that cancels is a positive zero.
-/

set_option autoImplicit false

namespace GridStore.Number

def zero (negative : Bool) : Number := .finite negative .zero

def ofNat (value : Nat) : Number := ofUnits false (value * unitsPerOne) 1

def ofInt (value : Int) : Number := ofUnits (decide (value < 0)) (value.natAbs * unitsPerOne) 1

/-- The position of a number on the line of units; the infinities sit at the limit. -/
def position : Number → Int
  | .nan => 0
  | .infinite negative => if negative then -(unitsLimit : Int) else unitsLimit
  | .finite negative magnitude => if negative then -(magnitude.units : Int) else magnitude.units

def isNaN : Number → Bool
  | .nan => true
  | _ => false

def isFinite : Number → Bool
  | .finite .. => true
  | _ => false

/-- Order of two numbers. Both zeros are alike and `nan` is unordered. -/
def compare (left right : Number) : Option Ordering :=
  if left.isNaN || right.isNaN then none
  else some (Ord.compare left.position right.position)

def equals (left right : Number) : Bool := left.compare right == some .eq

def neg : Number → Number
  | .nan => .nan
  | .infinite negative => .infinite !negative
  | .finite negative magnitude => .finite (!negative) magnitude

def add : Number → Number → Number
  | .nan, _ | _, .nan => .nan
  | .infinite left, .infinite right => if left = right then .infinite left else .nan
  | .infinite left, .finite .. => .infinite left
  | .finite .., .infinite right => .infinite right
  | .finite left leftSize, .finite right rightSize =>
      let sum := position (.finite left leftSize) + position (.finite right rightSize)
      if sum = 0 then zero (left && right)
      else ofUnits (decide (sum < 0)) sum.natAbs 1

def sub (left right : Number) : Number := left.add right.neg

def isZero : Number → Bool
  | .finite _ magnitude => magnitude.units == 0
  | _ => false

def isNegative : Number → Bool
  | .nan => false
  | .infinite negative => negative
  | .finite negative _ => negative

def mul : Number → Number → Number
  | .nan, _ | _, .nan => .nan
  | .finite left leftSize, .finite right rightSize =>
      ofUnits (left ^^ right) (leftSize.units * rightSize.units) unitsPerOne
  | left, right =>
      if left.isZero || right.isZero then .nan
      else .infinite (left.isNegative ^^ right.isNegative)

def div : Number → Number → Number
  | .nan, _ | _, .nan => .nan
  | .infinite .., .infinite .. => .nan
  | .infinite left, .finite right _ => .infinite (left ^^ right)
  | .finite left _, .infinite right => zero (left ^^ right)
  | .finite left leftSize, .finite right rightSize =>
      if rightSize.units = 0 then
        if leftSize.units = 0 then .nan else .infinite (left ^^ right)
      else ofUnits (left ^^ right) (leftSize.units * unitsPerOne) rightSize.units

/-- Remainder of a quotient truncated toward zero; it has the sign of the dividend. -/
def rem : Number → Number → Number
  | .nan, _ | _, .nan => .nan
  | .infinite .., _ => .nan
  | .finite left leftSize, .infinite .. => .finite left leftSize
  | .finite left leftSize, .finite _ rightSize =>
      if rightSize.units = 0 then .nan
      else ofUnits left (leftSize.units % rightSize.units) 1

def wholePart (magnitude : Magnitude) : Nat := magnitude.units / unitsPerOne

/-- Truncation toward zero, which keeps the sign of a vanishing fraction. -/
def trunc : Number → Number
  | .finite negative magnitude => ofUnits negative (wholePart magnitude * unitsPerOne) 1
  | other => other

/-- The natural number reached by truncation; `nan`, infinities and negative numbers give zero. -/
def toNat : Number → Nat
  | .finite false magnitude => wholePart magnitude
  | _ => 0

end GridStore.Number
