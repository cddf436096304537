import GridStore.Number.Arithmetic
import GridStore.Number.Read
import GridStore.Text.Character

/-!
Arithmetic expressions: signs bind tightest, then products, then sums, and equal operators group
to the left. A text is split into symbols first, with blanks allowed between them but not inside
a number; the symbols are then read into a tree, and the tree has a value.
-/

set_option autoImplicit false

namespace GridStore

inductive BinaryOperator where
  | add
  | sub
  | mul
  | div
  | rem
deriving DecidableEq, Repr

def BinaryOperator.apply : BinaryOperator → Number → Number → Number
  | .add => Number.add
  | .sub => Number.sub
  | .mul => Number.mul
  | .div => Number.div
  | .rem => Number.rem

inductive Expression where
  | literal (value : Number)
  | positive (operand : Expression)
  | negative (operand : Expression)
  | binary (operator : BinaryOperator) (left right : Expression)
deriving DecidableEq

def Expression.value : Expression → Number
  | .literal value => value
  | .positive operand => operand.value
  | .negative operand => operand.value.neg
  | .binary operator left right => operator.apply left.value right.value

inductive ExpressionSymbol where
  | number (value : Number)
  | plus
  | minus
  | times
  | divide
  | remainder
  | opening
  | closing
deriving DecidableEq

namespace ExpressionSymbol

def ofCharacter? : Char → Option ExpressionSymbol
  | '+' => some .plus
  | '-' => some .minus
  | '*' => some .times
  | '/' => some .divide
  | '%' => some .remainder
  | '(' => some .opening
  | ')' => some .closing
  | _ => none

/-- Digits and points stay together, even where they make no number. -/
def isNumberCharacter (character : Char) : Bool := character.isDigit || character == '.'

theorem length_dropWhile_le (test : Char → Bool) (text : List Char) :
    (text.dropWhile test).length ≤ text.length := (List.dropWhile_sublist test).length_le

def ofCharacters? : List Char → Option (List ExpressionSymbol)
  | [] => some []
  | character :: rest =>
      if Text.isBlank character then ofCharacters? rest
      else if isNumberCharacter character then do
        let value ← Number.ofChars? (character :: rest.takeWhile isNumberCharacter)
        let symbols ← ofCharacters? (rest.dropWhile isNumberCharacter)
        some (.number value :: symbols)
      else do
        let symbol ← ofCharacter? character
        let symbols ← ofCharacters? rest
        some (symbol :: symbols)
termination_by text => text.length
decreasing_by
  all_goals have := length_dropWhile_le isNumberCharacter rest
  all_goals simp only [List.length_cons]
  all_goals omega

def sumOperator? : ExpressionSymbol → Option BinaryOperator
  | .plus => some .add
  | .minus => some .sub
  | _ => none

def productOperator? : ExpressionSymbol → Option BinaryOperator
  | .times => some .mul
  | .divide => some .div
  | .remainder => some .rem
  | _ => none

end ExpressionSymbol

namespace Expression

open ExpressionSymbol

abbrev Remaining (symbols : List ExpressionSymbol) :=
  { rest : List ExpressionSymbol // rest.length < symbols.length }

abbrev RemainingOrAll (symbols : List ExpressionSymbol) :=
  { rest : List ExpressionSymbol // rest.length ≤ symbols.length }

mutual

/-- A number, a sum in parentheses, or either of them behind signs. -/
def readFactor? (symbols : List ExpressionSymbol) : Option (Expression × Remaining symbols) :=
  match symbols with
  | .number value :: rest => some (.literal value, ⟨rest, Nat.lt_succ_self _⟩)
  | .plus :: rest => do
      let (operand, ⟨behind, shorter⟩) ← readFactor? rest
      some (.positive operand, ⟨behind, Nat.lt_succ_of_lt shorter⟩)
  | .minus :: rest => do
      let (operand, ⟨behind, shorter⟩) ← readFactor? rest
      some (.negative operand, ⟨behind, Nat.lt_succ_of_lt shorter⟩)
  | .opening :: rest => do
      match ← readSum? rest with
      | (inner, ⟨.closing :: behind, shorter⟩) =>
          some (inner, ⟨behind, by simp only [List.length_cons] at shorter ⊢; omega⟩)
      | _ => none
  | _ => none
termination_by (symbols.length, 0)

def readProduct? (symbols : List ExpressionSymbol) : Option (Expression × Remaining symbols) := do
  let (first, ⟨behind, shorter⟩) ← readFactor? symbols
  let (product, ⟨rest, notLonger⟩) ← extendProduct? first behind
  some (product, ⟨rest, Nat.lt_of_le_of_lt notLonger shorter⟩)
termination_by (symbols.length, 1)

def extendProduct? (left : Expression) (symbols : List ExpressionSymbol) :
    Option (Expression × RemainingOrAll symbols) :=
  match symbols with
  | [] => some (left, ⟨[], Nat.le_refl _⟩)
  | symbol :: rest =>
      match productOperator? symbol with
      | none => some (left, ⟨symbol :: rest, Nat.le_refl _⟩)
      | some operator => do
          let (right, ⟨behind, shorter⟩) ← readFactor? rest
          let (product, ⟨last, notLonger⟩) ← extendProduct? (.binary operator left right) behind
          some (product, ⟨last, by simp only [List.length_cons]; omega⟩)
termination_by (symbols.length, 2)

def readSum? (symbols : List ExpressionSymbol) : Option (Expression × Remaining symbols) := do
  let (first, ⟨behind, shorter⟩) ← readProduct? symbols
  let (sum, ⟨rest, notLonger⟩) ← extendSum? first behind
  some (sum, ⟨rest, Nat.lt_of_le_of_lt notLonger shorter⟩)
termination_by (symbols.length, 3)

def extendSum? (left : Expression) (symbols : List ExpressionSymbol) :
    Option (Expression × RemainingOrAll symbols) :=
  match symbols with
  | [] => some (left, ⟨[], Nat.le_refl _⟩)
  | symbol :: rest =>
      match sumOperator? symbol with
      | none => some (left, ⟨symbol :: rest, Nat.le_refl _⟩)
      | some operator => do
          let (right, ⟨behind, shorter⟩) ← readProduct? rest
          let (sum, ⟨last, notLonger⟩) ← extendSum? (.binary operator left right) behind
          some (sum, ⟨last, by simp only [List.length_cons]; omega⟩)
termination_by (symbols.length, 4)

end

def ofCharacters? (text : List Char) : Option Expression := do
  match ← readSum? (← ExpressionSymbol.ofCharacters? text) with
  | (expression, ⟨[], _⟩) => some expression
  | _ => none

def evaluate? (text : List Char) : Option Number := (ofCharacters? text).map value

end Expression

end GridStore
