import GridStore.Proofs.Expression.Grammar

/-!
The reader of expressions knows nothing but the grammar: whatever it takes off the front of the
symbols is derived as the tree that it returns. Together with completeness, symbols are read as a
tree exactly if the grammar derives them as that tree.
-/

set_option autoImplicit false

namespace GridStore.Expression

open ExpressionSymbol

def ReadsDerived (level : Level) (symbols : List ExpressionSymbol)
    (result : Option (Expression × List ExpressionSymbol)) : Prop :=
  ∀ tree rest, result = some (tree, rest) →
    ∃ front, symbols = front ++ rest ∧ Derives level front tree

def ExtendsDerived (level : Level) (left : Expression) (symbols : List ExpressionSymbol)
    (result : Option (Expression × List ExpressionSymbol)) : Prop :=
  ∀ front, Derives level front left → ∀ tree rest, result = some (tree, rest) →
    ∃ more, symbols = more ++ rest ∧ Derives level (front ++ more) tree

variable {symbols rest : List ExpressionSymbol} {tree left : Expression} {level : Level}

theorem shorter_of_read {result : Option (Expression × Remaining symbols)}
    (read : plain result = some (tree, rest)) : rest.length < symbols.length := by
  obtain ⟨⟨found, behind, shorter⟩, -, same⟩ := Option.map_eq_some_iff.1 read
  cases same
  exact shorter

/-- Nothing is read where the tree ends. -/
theorem extends_nothing (level : Level) (left : Expression) (symbols : List ExpressionSymbol) :
    ExtendsDerived level left symbols (some (left, symbols)) := by
  intro front derived tree rest read
  cases read
  refine ⟨[], rfl, ?_⟩
  rw [List.append_nil]
  exact derived

/-- An operand, and what follows it, behind an operator that joins them to the tree so far. -/
theorem extends_joined {operand : Level} {symbol : ExpressionSymbol}
    (joined : Expression → Expression)
    {operands : Option (Expression × List ExpressionSymbol)}
    (extended : Expression → List ExpressionSymbol → Option (Expression × List ExpressionSymbol))
    (joins : ∀ {front second right}, Derives level front left → Derives operand second right →
      Derives level (front ++ symbol :: second) (joined right))
    (reads : ReadsDerived operand rest operands)
    (goes : ∀ right behind, operands = some (right, behind) →
      ExtendsDerived level (joined right) behind (extended (joined right) behind)) :
    ExtendsDerived level left (symbol :: rest)
      (operands.bind fun read => extended (joined read.1) read.2) := by
  intro front derived tree last read
  obtain ⟨⟨right, behind⟩, found, read⟩ := Option.bind_eq_some_iff.1 read
  obtain ⟨second, pieces, rightDerived⟩ := reads right behind found
  obtain ⟨more, others, whole⟩ :=
    goes right behind found _ (joins derived rightDerived) tree last read
  refine ⟨symbol :: (second ++ more), ?_, ?_⟩
  · rw [pieces, others, List.cons_append, List.append_assoc]
  · rw [List.append_assoc] at whole
    exact whole

/-- A first operand, extended as far as it goes. -/
theorem reads_extended {first second : Level}
    {operands : Option (Expression × List ExpressionSymbol)}
    (extended : Expression → List ExpressionSymbol → Option (Expression × List ExpressionSymbol))
    (starts : ∀ {front tree}, Derives first front tree → Derives second front tree)
    (reads : ReadsDerived first symbols operands)
    (goes : ∀ left behind, operands = some (left, behind) →
      ExtendsDerived second left behind (extended left behind)) :
    ReadsDerived second symbols (operands.bind fun read => extended read.1 read.2) := by
  intro tree last read
  obtain ⟨⟨left, behind⟩, found, read⟩ := Option.bind_eq_some_iff.1 read
  obtain ⟨front, pieces, derived⟩ := reads left behind found
  obtain ⟨more, others, whole⟩ := goes left behind found front (starts derived) tree last read
  refine ⟨front ++ more, ?_, whole⟩
  rw [pieces, others, List.append_assoc]

theorem reads_signed {sign : ExpressionSymbol} {signed : Expression → Expression}
    {operands : Option (Expression × List ExpressionSymbol)}
    (behind : ∀ {front tree}, Derives .factor front tree →
      Derives .factor (sign :: front) (signed tree))
    (reads : ReadsDerived .factor rest operands) :
    ReadsDerived .factor (sign :: rest) (operands.map fun read => (signed read.1, read.2)) := by
  intro tree last read
  obtain ⟨⟨operand, others⟩, found, same⟩ := Option.map_eq_some_iff.1 read
  obtain ⟨rfl, rfl⟩ := Prod.mk.inj same
  obtain ⟨front, pieces, derived⟩ := reads operand others found
  refine ⟨sign :: front, ?_, behind derived⟩
  rw [pieces, List.cons_append]

theorem reads_enclosed {operands : Option (Expression × List ExpressionSymbol)}
    (reads : ReadsDerived .sum rest operands) :
    ReadsDerived .factor (.opening :: rest) (operands.bind closed?) := by
  intro tree last read
  obtain ⟨⟨inner, behind⟩, found, read⟩ := Option.bind_eq_some_iff.1 read
  obtain ⟨front, pieces, derived⟩ := reads inner behind found
  unfold closed? at read
  split at read
  · rename_i others closing
    cases read
    obtain rfl : behind = .closing :: last := closing
    refine ⟨.opening :: (front ++ [.closing]), ?_, .enclosed derived⟩
    rw [pieces, List.cons_append, List.append_assoc]
    rfl
  · cases read

/-- The reader's five functions, along their own recursion. -/
theorem derived_of_read :
    (∀ symbols, ReadsDerived .factor symbols (plain (readFactor? symbols))) ∧
      (∀ symbols, ReadsDerived .sum symbols (plain (readSum? symbols))) ∧
      (∀ left symbols, ExtendsDerived .sum left symbols (plain (extendSum? left symbols))) ∧
      (∀ symbols, ReadsDerived .product symbols (plain (readProduct? symbols))) ∧
      ∀ left symbols,
        ExtendsDerived .product left symbols (plain (extendProduct? left symbols)) := by
  refine readFactor?.mutual_induct _ _ _ _ _ ?number ?plus ?minus ?opening ?other ?sum ?sumEnd
    ?sumStop ?sumOn ?product ?productEnd ?productStop ?productOn
  case number =>
    intro value rest tree last read
    rw [factor_number] at read
    cases read
    exact ⟨[.number value], rfl, .literal value⟩
  case plus =>
    intro rest induction
    rw [factor_plus]
    exact reads_signed .positive induction
  case minus =>
    intro rest induction
    rw [factor_minus]
    exact reads_signed .negative induction
  case opening =>
    intro rest induction
    rw [factor_opening]
    exact reads_enclosed induction
  case other =>
    intro symbols noNumber noPlus noMinus noOpening tree last read
    rw [readFactor?] at read
    · cases read
    · exact noNumber
    · exact noPlus
    · exact noMinus
    · exact noOpening
  case sum =>
    intro symbols product extension
    rw [sum_read]
    exact reads_extended (fun left behind => plain (extendSum? left behind)) .term product
      fun left behind found => extension left behind (shorter_of_read found)
  case sumEnd =>
    intro left
    rw [sum_ends left fun symbol head => by cases head]
    exact extends_nothing .sum left []
  case sumStop =>
    intro left symbol rest stops
    rw [sum_ends left fun next head => by cases head; exact stops]
    exact extends_nothing .sum left _
  case sumOn =>
    intro left symbol rest operator joins product extension
    rw [sum_goes_on left joins]
    exact extends_joined (.binary operator left) (fun tree behind => plain (extendSum? tree behind))
      (fun first second => .sum first joins second) product
      fun right behind found => extension right behind (shorter_of_read found)
  case product =>
    intro symbols factor extension
    rw [product_read]
    exact reads_extended (fun left behind => plain (extendProduct? left behind)) .factor factor
      fun left behind found => extension left behind (shorter_of_read found)
  case productEnd =>
    intro left
    rw [product_ends left fun symbol head => by cases head]
    exact extends_nothing .product left []
  case productStop =>
    intro left symbol rest stops
    rw [product_ends left fun next head => by cases head; exact stops]
    exact extends_nothing .product left _
  case productOn =>
    intro left symbol rest operator joins factor extension
    rw [product_goes_on left joins]
    exact extends_joined (.binary operator left) (fun tree behind => plain (extendProduct? tree behind))
      (fun first second => .product first joins second) factor
      fun right behind found => extension right behind (shorter_of_read found)

end GridStore.Expression
