import GridStore.Expression

/-!
The grammar of expressions over symbols, and that the reader knows all of it: a sum, a product or a
factor that the grammar derives is read off the front of the symbols as the tree that it stands for.
Operators of one level group to the left in the grammar, while the reader extends what it has read
to the right; reading a derived product is therefore the same as extending its tree over the rest.
-/

set_option autoImplicit false

namespace GridStore.Expression

open ExpressionSymbol

/-- What an expression may stand next to: a sum next to nothing but parentheses. -/
inductive Level where
  | factor
  | product
  | sum
deriving DecidableEq, Repr

inductive Derives : Level → List ExpressionSymbol → Expression → Prop where
  | literal (value : Number) : Derives .factor [.number value] (.literal value)
  | positive {symbols : List ExpressionSymbol} {operand : Expression} :
      Derives .factor symbols operand → Derives .factor (.plus :: symbols) (.positive operand)
  | negative {symbols : List ExpressionSymbol} {operand : Expression} :
      Derives .factor symbols operand → Derives .factor (.minus :: symbols) (.negative operand)
  | enclosed {symbols : List ExpressionSymbol} {inner : Expression} :
      Derives .sum symbols inner → Derives .factor (.opening :: (symbols ++ [.closing])) inner
  | factor {symbols : List ExpressionSymbol} {expression : Expression} :
      Derives .factor symbols expression → Derives .product symbols expression
  | product {first second : List ExpressionSymbol} {symbol : ExpressionSymbol}
      {operator : BinaryOperator} {left right : Expression} :
      Derives .product first left → productOperator? symbol = some operator →
        Derives .factor second right →
          Derives .product (first ++ symbol :: second) (.binary operator left right)
  | term {symbols : List ExpressionSymbol} {expression : Expression} :
      Derives .product symbols expression → Derives .sum symbols expression
  | sum {first second : List ExpressionSymbol} {symbol : ExpressionSymbol}
      {operator : BinaryOperator} {left right : Expression} :
      Derives .sum first left → sumOperator? symbol = some operator →
        Derives .product second right →
          Derives .sum (first ++ symbol :: second) (.binary operator left right)

def plain {inside : List ExpressionSymbol → Prop}
    (result : Option (Expression × { rest : List ExpressionSymbol // inside rest })) :
    Option (Expression × List ExpressionSymbol) :=
  result.map fun read => (read.1, read.2.val)

section Reader

variable {rest : List ExpressionSymbol} {symbol : ExpressionSymbol} {operator : BinaryOperator}

theorem factor_number (value : Number) :
    plain (readFactor? (.number value :: rest)) = some (.literal value, rest) := by
  rw [readFactor?]
  rfl

theorem factor_plus :
    plain (readFactor? (.plus :: rest)) =
      (plain (readFactor? rest)).map fun read => (.positive read.1, read.2) := by
  rw [readFactor?]
  cases readFactor? rest <;> rfl

theorem factor_minus :
    plain (readFactor? (.minus :: rest)) =
      (plain (readFactor? rest)).map fun read => (.negative read.1, read.2) := by
  rw [readFactor?]
  cases readFactor? rest <;> rfl

def closed? (read : Expression × List ExpressionSymbol) :
    Option (Expression × List ExpressionSymbol) :=
  match read.2 with
  | .closing :: behind => some (read.1, behind)
  | _ => none

theorem factor_opening :
    plain (readFactor? (.opening :: rest)) = (plain (readSum? rest)).bind closed? := by
  rw [readFactor?]
  cases readSum? rest with
  | none => rfl
  | some read =>
      obtain ⟨inner, behind, shorter⟩ := read
      cases behind with
      | nil => rfl
      | cons symbol behind => cases symbol <;> rfl

theorem product_read (symbols : List ExpressionSymbol) :
    plain (readProduct? symbols) =
      (plain (readFactor? symbols)).bind fun read => plain (extendProduct? read.1 read.2) := by
  rw [readProduct?]
  cases readFactor? symbols with
  | none => rfl
  | some read =>
      obtain ⟨first, behind, shorter⟩ := read
      show plain (Option.bind (extendProduct? first behind) _) = plain (extendProduct? first behind)
      cases extendProduct? first behind <;> rfl

theorem product_ends (left : Expression)
    (ends : ∀ symbol ∈ rest.head?, productOperator? symbol = none) :
    plain (extendProduct? left rest) = some (left, rest) := by
  cases rest with
  | nil =>
      rw [extendProduct?]
      rfl
  | cons symbol rest =>
      rw [extendProduct?, ends symbol rfl]
      rfl

theorem product_goes_on (left : Expression) (joins : productOperator? symbol = some operator) :
    plain (extendProduct? left (symbol :: rest)) =
      (plain (readFactor? rest)).bind fun read =>
        plain (extendProduct? (.binary operator left read.1) read.2) := by
  rw [extendProduct?, joins]
  cases readFactor? rest with
  | none => rfl
  | some read =>
      obtain ⟨right, behind, shorter⟩ := read
      show plain (Option.bind (extendProduct? (.binary operator left right) behind) _) =
        plain (extendProduct? (.binary operator left right) behind)
      cases extendProduct? (.binary operator left right) behind <;> rfl

theorem sum_read (symbols : List ExpressionSymbol) :
    plain (readSum? symbols) =
      (plain (readProduct? symbols)).bind fun read => plain (extendSum? read.1 read.2) := by
  rw [readSum?]
  cases readProduct? symbols with
  | none => rfl
  | some read =>
      obtain ⟨first, behind, shorter⟩ := read
      show plain (Option.bind (extendSum? first behind) _) = plain (extendSum? first behind)
      cases extendSum? first behind <;> rfl

theorem sum_ends (left : Expression)
    (ends : ∀ symbol ∈ rest.head?, sumOperator? symbol = none) :
    plain (extendSum? left rest) = some (left, rest) := by
  cases rest with
  | nil =>
      rw [extendSum?]
      rfl
  | cons symbol rest =>
      rw [extendSum?, ends symbol rfl]
      rfl

theorem sum_goes_on (left : Expression) (joins : sumOperator? symbol = some operator) :
    plain (extendSum? left (symbol :: rest)) =
      (plain (readProduct? rest)).bind fun read =>
        plain (extendSum? (.binary operator left read.1) read.2) := by
  rw [extendSum?, joins]
  cases readProduct? rest with
  | none => rfl
  | some read =>
      obtain ⟨right, behind, shorter⟩ := read
      show plain (Option.bind (extendSum? (.binary operator left right) behind) _) =
        plain (extendSum? (.binary operator left right) behind)
      cases extendSum? (.binary operator left right) behind <;> rfl

end Reader

section Completeness

/-- An operator of sums ends every product before it. -/
theorem no_product_of_sum {symbol : ExpressionSymbol} {operator : BinaryOperator}
    (joins : sumOperator? symbol = some operator) : productOperator? symbol = none := by
  cases symbol with
  | number value => rfl
  | plus => rfl
  | minus => rfl
  | times => cases joins
  | divide => cases joins
  | remainder => cases joins
  | opening => rfl
  | closing => rfl

/-- What reading makes of derived symbols with others behind them. A product and a sum may go on
with what is behind; a sum is told that no product does. -/
def IsRead : Level → List ExpressionSymbol → Expression → Prop
  | .factor, symbols, expression =>
      ∀ rest, plain (readFactor? (symbols ++ rest)) = some (expression, rest)
  | .product, symbols, expression =>
      ∀ rest, plain (readProduct? (symbols ++ rest)) = plain (extendProduct? expression rest)
  | .sum, symbols, expression =>
      ∀ rest, (∀ symbol ∈ rest.head?, productOperator? symbol = none) →
        plain (readSum? (symbols ++ rest)) = plain (extendSum? expression rest)

theorem is_read_of_derived {level : Level} {symbols : List ExpressionSymbol}
    {expression : Expression} (derived : Derives level symbols expression) :
    IsRead level symbols expression := by
  induction derived with
  | literal value =>
      intro rest
      exact factor_number value
  | positive derived induction =>
      intro rest
      rw [List.cons_append, factor_plus, induction rest]
      rfl
  | negative derived induction =>
      intro rest
      rw [List.cons_append, factor_minus, induction rest]
      rfl
  | @enclosed symbols inner derived induction =>
      intro rest
      have inside : symbols ++ [.closing] ++ rest = symbols ++ .closing :: rest := by simp
      have read := induction (.closing :: rest) (fun symbol head => by cases head; rfl)
      rw [sum_ends inner (fun symbol head => by cases head; rfl)] at read
      rw [List.cons_append, factor_opening, inside, read]
      rfl
  | factor derived induction =>
      intro rest
      rw [product_read, induction rest]
      rfl
  | @product first second symbol operator left right derivedLeft joins derivedRight
      inductionLeft inductionRight =>
      intro rest
      rw [List.append_assoc, List.cons_append, inductionLeft, product_goes_on left joins,
        inductionRight]
      rfl
  | @term symbols expression derived induction =>
      intro rest ends
      rw [sum_read, induction rest, product_ends expression ends]
      rfl
  | @sum first second symbol operator left right derivedLeft joins derivedRight
      inductionLeft inductionRight =>
      intro rest ends
      have stops : ∀ next ∈ (symbol :: (second ++ rest)).head?, productOperator? next = none := by
        intro next head
        cases head
        exact no_product_of_sum joins
      rw [List.append_assoc, List.cons_append, inductionLeft _ stops, sum_goes_on left joins,
        inductionRight, product_ends right ends]
      rfl

/-- A text whose symbols the grammar derives as a sum is read as the tree of that sum. -/
theorem of_characters_derived {text : List Char} {symbols : List ExpressionSymbol}
    {expression : Expression} (spelled : ExpressionSymbol.ofCharacters? text = some symbols)
    (derived : Derives .sum symbols expression) :
    ofCharacters? text = some expression := by
  have read := is_read_of_derived derived [] (fun symbol head => by cases head)
  rw [List.append_nil, sum_ends expression (fun symbol head => by cases head)] at read
  rw [ofCharacters?, spelled]
  show Option.bind (readSum? symbols) _ = _
  revert read
  cases readSum? symbols with
  | none => exact fun read => by cases read
  | some found =>
      obtain ⟨found, behind, shorter⟩ := found
      intro read
      cases read
      rfl

theorem evaluate_derived {text : List Char} {symbols : List ExpressionSymbol}
    {expression : Expression} (spelled : ExpressionSymbol.ofCharacters? text = some symbols)
    (derived : Derives .sum symbols expression) : evaluate? text = some expression.value := by
  rw [evaluate?, of_characters_derived spelled derived]
  rfl

end Completeness

end GridStore.Expression
