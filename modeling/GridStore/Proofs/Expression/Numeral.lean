import GridStore.Proofs.Expression.Grammar
import GridStore.Proofs.Expression.Symbols

/-!
Expressions over numerals: a sum or difference of two naturals written in decimal has the value
that the arithmetic of numbers gives it, whatever the size of the naturals.
-/

set_option autoImplicit false

namespace GridStore.Expression

theorem evaluate_numeral (value : Nat) :
    evaluate? (Nat.toDigits 10 value) = some (.ofNat value) := by
  have symbols := ExpressionSymbol.symbols_of_splits (ExpressionSymbol.splits_numeral value)
  have derived : Derives .sum [.number (.ofNat value)] (.literal (.ofNat value)) :=
    .term (.factor (.literal _))
  rw [evaluate_derived symbols derived]
  rfl

/-- Two numerals around an operator of sums that has a blank on either side. -/
theorem evaluate_numerals (left right : Nat) {mark : Char} {symbol : ExpressionSymbol}
    {operator : BinaryOperator} (spells : ExpressionSymbol.ofCharacter? mark = some symbol)
    (joins : ExpressionSymbol.sumOperator? symbol = some operator) :
    evaluate? (Nat.toDigits 10 left ++ [' ', mark, ' '] ++ Nat.toDigits 10 right) =
      some (operator.apply (.ofNat left) (.ofNat right)) := by
  have blank : Text.isBlank ' ' = true := by decide
  have first := ExpressionSymbol.splits_before_blank blank (ExpressionSymbol.splits_numeral left)
  have second := ExpressionSymbol.splits_behind_blank blank (ExpressionSymbol.splits_numeral right)
  have symbols := ExpressionSymbol.symbols_of_splits
    (ExpressionSymbol.splits_around_mark spells first second)
  have derived : Derives .sum ([.number (.ofNat left)] ++ symbol :: [.number (.ofNat right)])
      (.binary operator (.literal (.ofNat left)) (.literal (.ofNat right))) :=
    .sum (.term (.factor (.literal _))) joins (.factor (.literal _))
  have pieces : Nat.toDigits 10 left ++ [' ', mark, ' '] ++ Nat.toDigits 10 right =
      Nat.toDigits 10 left ++ [' '] ++ mark :: ' ' :: Nat.toDigits 10 right := by simp
  rw [pieces, evaluate_derived symbols derived]
  rfl

theorem evaluate_sum (left right : Nat) :
    evaluate? (Nat.toDigits 10 left ++ [' ', '+', ' '] ++ Nat.toDigits 10 right) =
      some ((Number.ofNat left).add (.ofNat right)) := by
  have spells : ExpressionSymbol.ofCharacter? '+' = some .plus := rfl
  have joins : ExpressionSymbol.sumOperator? .plus = some .add := rfl
  simpa only [BinaryOperator.apply] using evaluate_numerals left right spells joins

theorem evaluate_difference (left right : Nat) :
    evaluate? (Nat.toDigits 10 left ++ [' ', '-', ' '] ++ Nat.toDigits 10 right) =
      some ((Number.ofNat left).sub (.ofNat right)) := by
  have spells : ExpressionSymbol.ofCharacter? '-' = some .minus := rfl
  have joins : ExpressionSymbol.sumOperator? .minus = some .sub := rfl
  simpa only [BinaryOperator.apply] using evaluate_numerals left right spells joins

end GridStore.Expression
