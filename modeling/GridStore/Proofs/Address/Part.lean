import GridStore.Proofs.Address.Coordinate
import GridStore.Proofs.Address.Formula
import GridStore.Proofs.Number.Signed

/-!
Parts of joined addresses. A part that reads as a number other than zero stands for that number and
no longer for its text. Main statement: for a part that spells a formula this makes no difference,
the part has the value of the formula either way.
-/

set_option autoImplicit false

namespace GridStore

namespace Text

theorem trim_between (text : List Char) :
    ∃ front back, text = front ++ (trim text ++ back) ∧
      (∀ character ∈ front, isBlank character = true) ∧
      ∀ character ∈ back, isBlank character = true := by
  generalize inner : text.dropWhile isBlank = behind
  refine ⟨text.takeWhile isBlank, (behind.reverse.takeWhile isBlank).reverse, ?_, ?_, ?_⟩
  · have kept : trim text ++ (behind.reverse.takeWhile isBlank).reverse = behind := by
      rw [trim, inner, ← List.reverse_append, List.takeWhile_append_dropWhile, List.reverse_reverse]
    rw [kept, ← inner, List.takeWhile_append_dropWhile]
  · intro character member
    exact List.mem_takeWhile_imp member
  · intro character member
    exact List.mem_takeWhile_imp (List.mem_reverse.1 member)

end Text

namespace ExpressionSymbol

variable {text : List Char} {symbols : List ExpressionSymbol}

theorem splits_behind_blanks {blanks : List Char}
    (inside : ∀ character ∈ blanks, Text.isBlank character = true) (splits : Splits text symbols) :
    Splits (blanks ++ text) symbols := by
  induction blanks with
  | nil => exact splits
  | cons blank blanks induction =>
      have rest := induction
        fun character member => inside character (List.mem_cons_of_mem _ member)
      exact splits_behind_blank (inside blank List.mem_cons_self) rest

theorem splits_before_blanks {blanks : List Char}
    (inside : ∀ character ∈ blanks, Text.isBlank character = true) (splits : Splits text symbols) :
    Splits (text ++ blanks) symbols := by
  induction blanks generalizing text with
  | nil =>
      rw [List.append_nil]
      exact splits
  | cons blank blanks induction =>
      have first := splits_before_blank (inside blank List.mem_cons_self) splits
      have rest := induction
        (fun character member => inside character (List.mem_cons_of_mem _ member)) first
      rwa [List.append_assoc] at rest

end ExpressionSymbol

namespace Expression

open ExpressionSymbol

variable {text : List Char} {value : Number}

theorem splits_unsigned (read : Number.ofUnsigned? false text = some value) (noSmall : 'e' ∉ text)
    (noCapital : 'E' ∉ text) : Splits text [.number value] := by
  have inside := (Number.unsigned_is_run read noSmall noCapital).2
  have apart := Number.no_sign_in_number inside
  apply splits_run inside
  rw [Number.of_chars_eq, apart]
  exact read

theorem derives_decimal (read : Number.ofChars? text = some value) (noSmall : 'e' ∉ text)
    (noCapital : 'E' ∉ text) :
    ∃ symbols expression, Splits text symbols ∧ Derives .factor symbols expression ∧
      expression.value = value := by
  rw [Number.of_chars_eq] at read
  unfold Number.readSign at read
  split at read
  · rename_i unsigned
    rw [List.mem_cons, not_or] at noSmall noCapital
    rw [Number.of_unsigned_neg] at read
    obtain ⟨number, unsignedRead, rfl⟩ := Option.map_eq_some_iff.1 read
    have minus : ExpressionSymbol.ofCharacter? '-' = some .minus := rfl
    have splits := splits_unsigned unsignedRead noSmall.2 noCapital.2
    exact ⟨_, _, splits_behind_mark minus splits, .negative (.literal number), rfl⟩
  · rename_i unsigned
    rw [List.mem_cons, not_or] at noSmall noCapital
    have plus : ExpressionSymbol.ofCharacter? '+' = some .plus := rfl
    have splits := splits_unsigned read noSmall.2 noCapital.2
    exact ⟨_, _, splits_behind_mark plus splits, .positive (.literal value), rfl⟩
  · exact ⟨_, _, splits_unsigned read noSmall noCapital, .literal value, rfl⟩

end Expression

namespace Address

variable {part : List Char} {value : Number}

/-- A part that reads as a number other than zero is a decimal among blanks. -/
theorem decimal_of_lenient (read : lenientNumber? part = some value)
    (nonzero : value.isZero = false) :
    Number.ofChars? (Text.trim part) = some value ∧
      ∀ character ∈ part, Text.isBlank character = true ∨ isDecimalCharacter character = true := by
  unfold lenientNumber? at read
  dsimp only at read
  split at read
  · cases read
    cases nonzero
  · split at read
    · rename_i decimal
      refine ⟨read, ?_⟩
      intro character member
      obtain ⟨front, back, pieces, before, behind⟩ := Text.trim_between part
      rw [pieces, List.mem_append, List.mem_append] at member
      rcases member with first | inside | last
      · exact Or.inl (before character first)
      · exact Or.inr (List.all_eq_true.1 decimal character inside)
      · exact Or.inl (behind character last)
    · cases read

theorem evaluate_of_lenient (read : lenientNumber? part = some value)
    (nonzero : value.isZero = false) (noSmall : 'e' ∉ part) (noCapital : 'E' ∉ part) :
    Expression.evaluate? part = some value := by
  obtain ⟨front, back, pieces, before, behind⟩ := Text.trim_between part
  rw [pieces] at noSmall noCapital
  simp only [List.mem_append, not_or] at noSmall noCapital
  obtain ⟨symbols, expression, splits, derived, rfl⟩ :=
    Expression.derives_decimal (decimal_of_lenient read nonzero).1 noSmall.2.1 noCapital.2.1
  have whole := ExpressionSymbol.splits_behind_blanks before
    (ExpressionSymbol.splits_before_blanks behind splits)
  rw [← pieces] at whole
  exact Expression.evaluate_derived (ExpressionSymbol.symbols_of_splits whole)
    (.term (.factor derived))

theorem filled_of_lenient {metrics : Metric → Nat} (read : lenientNumber? part = some value)
    (nonzero : value.isZero = false) : filled metrics part = part := by
  have inside := (decimal_of_lenient read nonzero).2
  apply filled_absent
  · intro member
    exact absurd (inside _ member) (by decide)
  · intro member
    exact absurd (inside _ member) (by decide)

end Address

namespace Formula

open Expression

variable {formula : Formula} {level : Level} {text : List Char}

def isCharacter (character : Char) : Bool :=
  character.isDigit || Text.isBlank character ||
    ['l', 'r', 'c', 'm', '+', '-', '*', '(', ')'].contains character

theorem spelled_character (spelled : Spells level text formula) :
    ∀ character ∈ text, isCharacter character = true := by
  induction spelled with
  | literal nonempty inside =>
      intro character member
      simp [isCharacter, inside character member]
  | measure metric =>
      have all : metric.symbol.all isCharacter = true := by cases metric <;> decide
      exact List.all_eq_true.1 all
  | positive spelled induction => exact List.forall_mem_cons.2 ⟨rfl, induction⟩
  | negative spelled induction => exact List.forall_mem_cons.2 ⟨rfl, induction⟩
  | enclosed spelled induction =>
      have closing : isCharacter ')' = true := rfl
      have closed := List.forall_mem_append.2 ⟨induction, List.forall_mem_singleton.2 closing⟩
      exact List.forall_mem_cons.2 ⟨rfl, closed⟩
  | factor spelled induction => exact induction
  | product spelledLeft spelledRight inductionLeft inductionRight =>
      exact List.forall_mem_append.2 ⟨inductionLeft, List.forall_mem_cons.2 ⟨rfl, inductionRight⟩⟩
  | term spelled induction => exact induction
  | sum spelledLeft spelledRight inductionLeft inductionRight =>
      exact List.forall_mem_append.2 ⟨inductionLeft, List.forall_mem_cons.2 ⟨rfl, inductionRight⟩⟩
  | difference spelledLeft spelledRight inductionLeft inductionRight =>
      exact List.forall_mem_append.2 ⟨inductionLeft, List.forall_mem_cons.2 ⟨rfl, inductionRight⟩⟩
  | @behindBlank level first text formula blank spelled induction =>
      have blankStart : isCharacter first = true := by simp [isCharacter, blank]
      exact List.forall_mem_cons.2 ⟨blankStart, induction⟩
  | @beforeBlank level last text formula blank spelled induction =>
      have blankEnd : isCharacter last = true := by simp [isCharacter, blank]
      exact List.forall_mem_append.2 ⟨induction, List.forall_mem_singleton.2 blankEnd⟩

theorem absent_of_spelled {character : Char} (other : isCharacter character = false)
    (spelled : Spells level text formula) : character ∉ text := by
  intro member
  rw [spelled_character spelled character member] at other
  cases other

theorem spelled_not_empty (spelled : Spells level text formula) : text ≠ [] := by
  induction spelled with
  | literal nonempty inside => exact nonempty
  | measure metric => exact Address.symbol_not_empty metric
  | positive spelled induction => exact List.cons_ne_nil _ _
  | negative spelled induction => exact List.cons_ne_nil _ _
  | enclosed spelled induction => exact List.cons_ne_nil _ _
  | factor spelled induction => exact induction
  | product spelledLeft spelledRight inductionLeft inductionRight => simp
  | term spelled induction => exact induction
  | sum spelledLeft spelledRight inductionLeft inductionRight => simp
  | difference spelledLeft spelledRight inductionLeft inductionRight => simp
  | behindBlank blank spelled induction => exact List.cons_ne_nil _ _
  | beforeBlank blank spelled induction => simp

end Formula

namespace Address

variable {grid : Grid} {metrics : Metric → Nat} {formula : Formula}

/-- The token resolves to the integer. Measuring on the way leaves alone what is known of the
grid. -/
def StandsFor (grid : Grid) (metrics : Metric → Nat) (token : AddressToken) (integer : Int) :
    Prop :=
  ∀ cache : MetricCache, cache.known grid = metrics →
    ∃ value final, final.known grid = metrics ∧ coordinate grid token cache = .ok value final ∧
      value.IsInteger integer

theorem number_stands {value : Number} {integer : Int} (stands : value.IsInteger integer) :
    StandsFor grid metrics (.number value) integer := by
  intro cache known
  have resolved : coordinate grid (.number value) cache = .ok value.trunc cache :=
    coordinate_number value
  rw [Number.trunc_integer stands] at resolved
  exact ⟨value, cache, known, resolved, stands⟩

theorem text_stands {content : String} (spelled : Formula.Spells .sum content.toList formula)
    (exact : formula.IsExact metrics) :
    StandsFor grid metrics (.text content) (formula.value metrics) := by
  intro cache known
  obtain ⟨final, kept, substitutes⟩ := substituted_known grid cache content.toList
  obtain ⟨value, evaluates, stands⟩ := Formula.evaluate_of_spelled spelled exact
  rw [← known] at evaluates
  refine ⟨value, final, kept.trans known, ?_, stands⟩
  rw [coordinate_text substitutes evaluates, if_pos stands.finite, Number.trunc_integer stands]

/-- A part of a joined address, whether it becomes a number or stays a text. -/
theorem part_stands {part : List Char} (spelled : Formula.Spells .sum part formula)
    (exact : formula.IsExact metrics) :
    (tokenOfPart part).isPresent = true ∧
      StandsFor grid metrics (tokenOfPart part) (formula.value metrics) := by
  have asText : (AddressToken.text (String.ofList part)).isPresent = true ∧
      StandsFor grid metrics (.text (String.ofList part)) (formula.value metrics) := by
    constructor
    · simp [AddressToken.isPresent, Formula.spelled_not_empty spelled]
    · apply text_stands _ exact
      rw [String.toList_ofList]
      exact spelled
  unfold tokenOfPart
  cases read : lenientNumber? part with
  | none => exact asText
  | some value =>
      cases nothing : value.isZero with
      | true =>
          simp only [nothing, if_true]
          exact asText
      | false =>
          have noSmall : 'e' ∉ part := Formula.absent_of_spelled (by decide) spelled
          have noCapital : 'E' ∉ part := Formula.absent_of_spelled (by decide) spelled
          obtain ⟨other, evaluates, stands⟩ := Formula.evaluate_of_spelled spelled exact
          rw [filled_of_lenient read nothing, evaluate_of_lenient read nothing noSmall noCapital]
            at evaluates
          cases evaluates
          have finite : value.isNaN = false := by
            cases value with
            | nan => cases stands.finite
            | infinite negative => rfl
            | finite negative magnitude => rfl
          simp only [nothing, Bool.false_eq_true, if_false]
          refine ⟨?_, number_stands stands⟩
          simp [AddressToken.isPresent, nothing, finite]

end Address

end GridStore
