import GridStore.Proofs.Address.Known
import GridStore.Proofs.Expression.Grammar
import GridStore.Proofs.Expression.Symbols
import GridStore.Proofs.Number.Integer

/-!
Integer formulas over the metrics of a grid, and the texts that spell them. Main statement: where no
value on the way reaches `2 ^ 53`, a text that spells a formula evaluates to the value of the
formula, once the metrics have been put in for their words.
-/

set_option autoImplicit false

namespace GridStore

inductive Formula where
  | literal (value : Nat)
  | measure (metric : Metric)
  | positive (operand : Formula)
  | negative (operand : Formula)
  | sum (left right : Formula)
  | difference (left right : Formula)
  | product (left right : Formula)
deriving DecidableEq, Repr

namespace Formula

open Expression ExpressionSymbol

variable {metrics : Metric → Nat} {formula : Formula} {level : Level} {text : List Char}

def value (metrics : Metric → Nat) : Formula → Int
  | .literal value => value
  | .measure metric => metrics metric
  | .positive operand => operand.value metrics
  | .negative operand => -operand.value metrics
  | .sum left right => left.value metrics + right.value metrics
  | .difference left right => left.value metrics - right.value metrics
  | .product left right => left.value metrics * right.value metrics

def parts : Formula → List Formula
  | .literal value => [.literal value]
  | .measure metric => [.measure metric]
  | .positive operand => .positive operand :: operand.parts
  | .negative operand => .negative operand :: operand.parts
  | .sum left right => .sum left right :: (left.parts ++ right.parts)
  | .difference left right => .difference left right :: (left.parts ++ right.parts)
  | .product left right => .product left right :: (left.parts ++ right.parts)

/-- Every value on the way stays below the bound up to which numbers keep integers. -/
def IsExact (metrics : Metric → Nat) (formula : Formula) : Prop :=
  ∀ part ∈ formula.parts, (part.value metrics).natAbs < exactBound

/-- The texts of a formula. Signs bind tightest, equal operators group to the left, parentheses
may stand around anything, and blanks may stand anywhere but inside a number or a word. -/
inductive Spells : Level → List Char → Formula → Prop where
  | literal {digits : List Char} (nonempty : digits ≠ [])
      (inside : ∀ character ∈ digits, character.isDigit = true) :
      Spells .factor digits (.literal (digitsValue digits))
  | measure (metric : Metric) : Spells .factor metric.symbol (.measure metric)
  | positive {text : List Char} {operand : Formula} :
      Spells .factor text operand → Spells .factor ('+' :: text) (.positive operand)
  | negative {text : List Char} {operand : Formula} :
      Spells .factor text operand → Spells .factor ('-' :: text) (.negative operand)
  | enclosed {text : List Char} {inner : Formula} :
      Spells .sum text inner → Spells .factor ('(' :: (text ++ [')'])) inner
  | factor {text : List Char} {formula : Formula} :
      Spells .factor text formula → Spells .product text formula
  | product {first second : List Char} {left right : Formula} :
      Spells .product first left → Spells .factor second right →
        Spells .product (first ++ '*' :: second) (.product left right)
  | term {text : List Char} {formula : Formula} :
      Spells .product text formula → Spells .sum text formula
  | sum {first second : List Char} {left right : Formula} :
      Spells .sum first left → Spells .product second right →
        Spells .sum (first ++ '+' :: second) (.sum left right)
  | difference {first second : List Char} {left right : Formula} :
      Spells .sum first left → Spells .product second right →
        Spells .sum (first ++ '-' :: second) (.difference left right)
  | behindBlank {level : Level} {blank : Char} {text : List Char} {formula : Formula} :
      Text.isBlank blank = true → Spells level text formula → Spells level (blank :: text) formula
  | beforeBlank {level : Level} {blank : Char} {text : List Char} {formula : Formula} :
      Text.isBlank blank = true → Spells level text formula → Spells level (text ++ [blank]) formula

theorem mem_parts (formula : Formula) : formula ∈ formula.parts := by
  cases formula with
  | literal value => exact List.mem_cons_self
  | measure metric => exact List.mem_cons_self
  | positive operand => exact List.mem_cons_self
  | negative operand => exact List.mem_cons_self
  | sum left right => exact List.mem_cons_self
  | difference left right => exact List.mem_cons_self
  | product left right => exact List.mem_cons_self

theorem exact_value (exact : formula.IsExact metrics) :
    (formula.value metrics).natAbs ≤ exactBound := Nat.le_of_lt (exact formula (mem_parts formula))

theorem exact_operand {operand : Formula} (parts : formula.parts = formula :: operand.parts)
    (exact : formula.IsExact metrics) : operand.IsExact metrics := by
  intro part member
  apply exact
  rw [parts]
  exact List.mem_cons_of_mem _ member

theorem exact_operands {left right : Formula}
    (parts : formula.parts = formula :: (left.parts ++ right.parts))
    (exact : formula.IsExact metrics) : left.IsExact metrics ∧ right.IsExact metrics := by
  constructor
  · intro part member
    apply exact
    rw [parts]
    exact List.mem_cons_of_mem _ (List.mem_append_left _ member)
  · intro part member
    apply exact
    rw [parts]
    exact List.mem_cons_of_mem _ (List.mem_append_right _ member)

theorem mark_solo {mark : Char} {symbol : ExpressionSymbol}
    (spells : ExpressionSymbol.ofCharacter? mark = some symbol) :
    Text.isWordCharacter mark = false := by
  unfold ExpressionSymbol.ofCharacter? at spells
  split at spells
  · decide
  · decide
  · decide
  · decide
  · decide
  · decide
  · decide
  · cases spells

/-- The text is read as an expression with the value of the formula, with the metrics put in and
whatever stands behind it. -/
structure Reads (metrics : Metric → Nat) (level : Level) (text : List Char) (formula : Formula)
    (symbols : List ExpressionSymbol) (expression : Expression) : Prop where
  splits : Splits (Address.filled metrics text) symbols
  derived : Derives level symbols expression
  stands : expression.value.IsInteger (formula.value metrics)

theorem splits_filled {first second : List Char} {left right : List ExpressionSymbol} {mark : Char}
    {symbol : ExpressionSymbol} (spells : ExpressionSymbol.ofCharacter? mark = some symbol)
    (firstSplits : Splits (Address.filled metrics first) left)
    (secondSplits : Splits (Address.filled metrics second) right) :
    Splits (Address.filled metrics (first ++ mark :: second)) (left ++ symbol :: right) := by
  rw [Address.filled_around (mark_solo spells)]
  exact splits_around_mark spells firstSplits secondSplits

theorem splits_filled_behind {symbols : List ExpressionSymbol} {mark : Char}
    {symbol : ExpressionSymbol} (spells : ExpressionSymbol.ofCharacter? mark = some symbol)
    (splits : Splits (Address.filled metrics text) symbols) :
    Splits (Address.filled metrics (mark :: text)) (symbol :: symbols) := by
  rw [Address.filled_behind (mark_solo spells)]
  exact splits_behind_mark spells splits

/-- What the grammar derives from a spelled text follows how the text was spelled. -/
theorem reads_of_spelled (spelled : Spells level text formula) (exact : formula.IsExact metrics) :
    ∃ symbols expression, Reads metrics level text formula symbols expression := by
  induction spelled with
  | @literal digits nonempty inside =>
      have splits := splits_digits inside nonempty
      have small : digitsValue digits ≤ exactBound := exact_value exact
      refine ⟨_, .literal (.ofNat (digitsValue digits)), ?_, .literal _, ?_⟩
      · rw [Address.filled_digits inside]
        exact splits
      · exact Number.integer_of_nat small
  | measure metric =>
      have small : metrics metric ≤ exactBound := exact_value exact
      refine ⟨_, .literal (.ofNat (metrics metric)), ?_, .literal _, ?_⟩
      · rw [Address.filled_symbol]
        exact splits_numeral _
      · exact Number.integer_of_nat small
  | positive spelled induction =>
      obtain ⟨symbols, expression, splits, derived, stands⟩ := induction (exact_operand rfl exact)
      exact ⟨_, _, splits_filled_behind rfl splits, .positive derived, stands⟩
  | negative spelled induction =>
      obtain ⟨symbols, expression, splits, derived, stands⟩ := induction (exact_operand rfl exact)
      exact ⟨_, _, splits_filled_behind rfl splits, .negative derived, Number.integer_neg stands⟩
  | enclosed spelled induction =>
      obtain ⟨symbols, expression, splits, derived, stands⟩ := induction exact
      have closing : ExpressionSymbol.ofCharacter? ')' = some .closing := rfl
      have nothing : Splits (Address.filled metrics []) [] := by
        rw [Address.filled_nil]
        exact splits_nil
      have closed := splits_filled closing splits nothing
      exact ⟨_, _, splits_filled_behind rfl closed, .enclosed derived, stands⟩
  | factor spelled induction =>
      obtain ⟨symbols, expression, splits, derived, stands⟩ := induction exact
      exact ⟨symbols, expression, splits, .factor derived, stands⟩
  | product spelledLeft spelledRight inductionLeft inductionRight =>
      obtain ⟨exactLeft, exactRight⟩ := exact_operands rfl exact
      obtain ⟨first, left, firstSplits, leftDerived, leftStands⟩ := inductionLeft exactLeft
      obtain ⟨second, right, secondSplits, rightDerived, rightStands⟩ := inductionRight exactRight
      exact ⟨_, _, splits_filled rfl firstSplits secondSplits,
        .product leftDerived rfl rightDerived,
        Number.integer_mul leftStands rightStands (exact_value exact)⟩
  | term spelled induction =>
      obtain ⟨symbols, expression, splits, derived, stands⟩ := induction exact
      exact ⟨symbols, expression, splits, .term derived, stands⟩
  | sum spelledLeft spelledRight inductionLeft inductionRight =>
      obtain ⟨exactLeft, exactRight⟩ := exact_operands rfl exact
      obtain ⟨first, left, firstSplits, leftDerived, leftStands⟩ := inductionLeft exactLeft
      obtain ⟨second, right, secondSplits, rightDerived, rightStands⟩ := inductionRight exactRight
      exact ⟨_, _, splits_filled rfl firstSplits secondSplits, .sum leftDerived rfl rightDerived,
        Number.integer_add leftStands rightStands (exact_value exact)⟩
  | difference spelledLeft spelledRight inductionLeft inductionRight =>
      obtain ⟨exactLeft, exactRight⟩ := exact_operands rfl exact
      obtain ⟨first, left, firstSplits, leftDerived, leftStands⟩ := inductionLeft exactLeft
      obtain ⟨second, right, secondSplits, rightDerived, rightStands⟩ := inductionRight exactRight
      exact ⟨_, _, splits_filled rfl firstSplits secondSplits, .sum leftDerived rfl rightDerived,
        Number.integer_sub leftStands rightStands (exact_value exact)⟩
  | behindBlank blank spelled induction =>
      obtain ⟨symbols, expression, splits, derived, stands⟩ := induction exact
      refine ⟨symbols, expression, ?_, derived, stands⟩
      rw [Address.filled_behind (Text.is_word_blank blank)]
      exact splits_behind_blank blank splits
  | beforeBlank blank spelled induction =>
      obtain ⟨symbols, expression, splits, derived, stands⟩ := induction exact
      refine ⟨symbols, expression, ?_, derived, stands⟩
      rw [Address.filled_before (Text.is_word_blank blank)]
      exact splits_before_blank blank splits

/-- A text that spells a formula evaluates to the value of the formula. -/
theorem evaluate_of_spelled (spelled : Spells .sum text formula) (exact : formula.IsExact metrics) :
    ∃ value, evaluate? (Address.filled metrics text) = some value ∧
      value.IsInteger (formula.value metrics) := by
  obtain ⟨symbols, expression, splits, derived, stands⟩ := reads_of_spelled spelled exact
  exact ⟨expression.value, evaluate_derived (symbols_of_splits splits) derived, stands⟩

end Formula

end GridStore
