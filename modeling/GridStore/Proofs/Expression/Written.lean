import GridStore.Proofs.Expression.Derived
import GridStore.Proofs.Expression.Symbols
import GridStore.Proofs.Number.Signed

/-!
Texts of expressions. A text is written from symbols with blanks between them; a number in it is a
whole run of digits and points, with some digit and no second point. Main statement: a text has a
value exactly if it is written from symbols that the grammar derives as an expression with that
value.
-/

set_option autoImplicit false

namespace GridStore

namespace Number

open ExpressionSymbol

/-- A number in an expression, without a sign and without an exponent. -/
structure IsDecimal (run : List Char) : Prop where
  inside : ∀ character ∈ run, isNumberCharacter character = true
  digit : ∃ character ∈ run, character.isDigit = true
  point : run.count '.' ≤ 1

def ofRun (run : List Char) : Number :=
  .ofDecimal false (digitsValue (run.filter Char.isDigit))
    (-((run.dropWhile (· != '.')).drop 1).length)

variable {run whole behind : List Char} {value : Number}

theorem digits_or_point (inside : ∀ character ∈ run, isNumberCharacter character = true) :
    (∀ character ∈ run, character.isDigit = true) ∨
      ∃ whole behind, run = whole ++ '.' :: behind ∧
        (∀ character ∈ whole, character.isDigit = true) ∧
        ∀ character ∈ behind, isNumberCharacter character = true := by
  induction run with
  | nil => exact Or.inl fun character member => by cases member
  | cons first rest induction =>
      obtain ⟨here, others⟩ := List.forall_mem_cons.1 inside
      cases digit : first.isDigit with
      | true =>
          rcases induction others with digits | ⟨whole, behind, pieces, digits, last⟩
          · exact Or.inl (List.forall_mem_cons.2 ⟨digit, digits⟩)
          · refine Or.inr ⟨first :: whole, behind, ?_, List.forall_mem_cons.2 ⟨digit, digits⟩, last⟩
            rw [pieces, List.cons_append]
      | false =>
          rw [isNumberCharacter, digit, Bool.false_or, beq_iff_eq] at here
          refine Or.inr ⟨[], rest, ?_, List.forall_mem_nil _, others⟩
          rw [here, List.nil_append]

theorem no_point_in_digits {digits : List Char}
    (inside : ∀ character ∈ digits, character.isDigit = true) : '.' ∉ digits := by
  intro member
  exact absurd (inside _ member) (by decide)

theorem filter_digits {digits : List Char}
    (inside : ∀ character ∈ digits, character.isDigit = true) :
    digits.filter Char.isDigit = digits := List.filter_eq_self.2 inside

theorem of_run_digits (inside : ∀ character ∈ run, character.isDigit = true) :
    ofRun run = .ofNat (digitsValue run) := by
  have noPoint : run.dropWhile (· != '.') = [] := by
    apply List.dropWhile_eq_nil_iff.2
    intro character member
    exact bne_iff_ne.2 fun same => no_point_in_digits inside (same ▸ member)
  rw [ofRun, filter_digits inside, noPoint]
  exact of_decimal_whole _

theorem of_run_pointed (digits : ∀ character ∈ whole, character.isDigit = true)
    (decimals : ∀ character ∈ behind, character.isDigit = true) :
    ofRun (whole ++ '.' :: behind) =
      .ofDecimal false (digitsValue (whole ++ behind)) (0 - behind.length) := by
  have noPoint : ∀ character ∈ whole, (character != '.') = true := fun character member =>
    bne_iff_ne.2 fun same => no_point_in_digits digits (same ▸ member)
  have point : ∀ character ∈ ('.' :: behind).head?, (character != '.') = false := by
    intro character head
    cases head
    rfl
  have noDigit : Char.isDigit '.' = false := by decide
  rw [ofRun, Text.drop_run noPoint point, List.filter_append, filter_digits digits,
    List.filter_cons_of_neg (by simp [noDigit]), filter_digits decimals, Int.zero_sub]
  rfl

theorem count_points (digits : ∀ character ∈ whole, character.isDigit = true) :
    (whole ++ '.' :: behind).count '.' = behind.count '.' + 1 := by
  rw [List.count_append, List.count_eq_zero.2 (no_point_in_digits digits), List.count_cons_self,
    Nat.zero_add]

theorem digit_beside_point (digits : ∀ character ∈ whole, character.isDigit = true)
    (decimals : ∀ character ∈ behind, character.isDigit = true) :
    (∃ character ∈ whole ++ '.' :: behind, character.isDigit = true) ↔
      (whole.isEmpty && behind.isEmpty) = false := by
  cases whole with
  | cons first whole =>
      exact iff_of_true ⟨first, List.mem_append_left _ List.mem_cons_self,
        digits first List.mem_cons_self⟩ rfl
  | nil =>
      cases behind with
      | cons first behind =>
          exact iff_of_true ⟨first, List.mem_cons_of_mem _ List.mem_cons_self,
            decimals first List.mem_cons_self⟩ rfl
      | nil =>
          refine iff_of_false ?_ (by decide)
          rintro ⟨character, member, digit⟩
          obtain rfl := List.mem_singleton.1 member
          exact absurd digit (by decide)

/-- Behind the only point stand digits alone. -/
theorem decimals_of_single (digits : ∀ character ∈ whole, character.isDigit = true)
    (inside : ∀ character ∈ behind, isNumberCharacter character = true)
    (single : (whole ++ '.' :: behind).count '.' ≤ 1) :
    ∀ character ∈ behind, character.isDigit = true := by
  intro character member
  have noPoint : '.' ∉ behind := by
    rw [count_points digits] at single
    exact List.count_eq_zero.1 (by omega)
  have number := inside character member
  have other : (character == '.') = false :=
    beq_eq_false_iff_ne.2 fun same => noPoint (same ▸ member)
  rwa [isNumberCharacter, other, Bool.or_false] at number

theorem decimal_pointed_iff (digits : ∀ character ∈ whole, character.isDigit = true)
    (inside : ∀ character ∈ behind, isNumberCharacter character = true) :
    IsDecimal (whole ++ '.' :: behind) ↔
      (behind.all Char.isDigit && !(whole.isEmpty && behind.isEmpty)) = true := by
  rw [Bool.and_eq_true, List.all_eq_true, Bool.not_eq_true']
  constructor
  · intro decimal
    have decimals := decimals_of_single digits inside decimal.point
    exact ⟨decimals, (digit_beside_point digits decimals).1 decimal.digit⟩
  · rintro ⟨decimals, some⟩
    refine ⟨number_character_pointed digits inside,
      (digit_beside_point digits decimals).2 some, ?_⟩
    rw [count_points digits, List.count_eq_zero.2 (no_point_in_digits decimals)]

/-- Of the runs of digits and points just the decimals are read as numbers. -/
theorem read_run_iff (inside : ∀ character ∈ run, isNumberCharacter character = true) :
    ofChars? run = some value ↔ IsDecimal run ∧ value = ofRun run := by
  rcases digits_or_point inside with digits | ⟨whole, behind, rfl, digits, last⟩
  · have count : run.count '.' = 0 := List.count_eq_zero.2 (no_point_in_digits digits)
    cases run with
    | nil =>
        refine iff_of_false (fun read => by cases read) ?_
        rintro ⟨⟨-, ⟨character, member, -⟩, -⟩, -⟩
        cases member
    | cons first rest =>
        have decimal : IsDecimal (first :: rest) :=
          ⟨inside, ⟨first, List.mem_cons_self, digits first List.mem_cons_self⟩, by omega⟩
        rw [number_of_digits digits (List.cons_ne_nil _ _), ← of_run_digits digits,
          Option.some.injEq, eq_comm]
        exact (and_iff_right decimal).symm
  · rw [of_chars_pointed digits last, decimal_pointed_iff digits last]
    by_cases decimal : (behind.all Char.isDigit && !(whole.isEmpty && behind.isEmpty)) = true
    · have decimals := List.all_eq_true.1 (Bool.and_eq_true_iff.1 decimal).1
      rw [if_pos decimal, ← of_run_pointed digits decimals, Option.some.injEq, eq_comm]
      exact (and_iff_right decimal).symm
    · rw [if_neg decimal]
      exact iff_of_false (fun read => by cases read) fun read => decimal read.1

end Number

namespace ExpressionSymbol

def mark? : ExpressionSymbol → Option Char
  | .number _ => none
  | .plus => some '+'
  | .minus => some '-'
  | .times => some '*'
  | .divide => some '/'
  | .remainder => some '%'
  | .opening => some '('
  | .closing => some ')'

/-- The texts of symbols. Blanks may stand anywhere but inside a number, and a number is as long as
digits and points go on. -/
inductive Writes : List Char → List ExpressionSymbol → Prop where
  | nil : Writes [] []
  | blank {blank : Char} {text : List Char} {symbols : List ExpressionSymbol} :
      Text.isBlank blank = true → Writes text symbols → Writes (blank :: text) symbols
  | mark {mark : Char} {symbol : ExpressionSymbol} {text : List Char}
      {symbols : List ExpressionSymbol} :
      symbol.mark? = some mark → Writes text symbols → Writes (mark :: text) (symbol :: symbols)
  | number {run text : List Char} {symbols : List ExpressionSymbol} :
      Number.IsDecimal run → (∀ character ∈ text.head?, isNumberCharacter character = false) →
        Writes text symbols → Writes (run ++ text) (.number (.ofRun run) :: symbols)

variable {text : List Char} {symbols : List ExpressionSymbol}

theorem of_character_iff {mark : Char} {symbol : ExpressionSymbol} :
    ofCharacter? mark = some symbol ↔ symbol.mark? = some mark := by
  constructor
  · intro spells
    unfold ofCharacter? at spells
    split at spells
    · cases spells; rfl
    · cases spells; rfl
    · cases spells; rfl
    · cases spells; rfl
    · cases spells; rfl
    · cases spells; rfl
    · cases spells; rfl
    · cases spells
  · intro spells
    cases symbol <;> cases spells <;> rfl

theorem symbols_of_written (written : Writes text symbols) :
    ofCharacters? text = some symbols := by
  induction written with
  | nil => rw [ofCharacters?]
  | blank blank written induction => rw [symbols_of_blank blank, induction]
  | mark spells written induction =>
      rw [symbols_of_mark (of_character_iff.2 spells), induction, Option.map_some]
  | number decimal stops written induction =>
      have read := (Number.read_run_iff decimal.inside).2 ⟨decimal, rfl⟩
      rw [symbols_of_run decimal.inside read stops, induction, Option.map_some]

theorem written_of_symbols (read : ofCharacters? text = some symbols) : Writes text symbols := by
  induction text using ofCharacters?.induct generalizing symbols with
  | case1 =>
      rw [ofCharacters?] at read
      cases read
      exact .nil
  | case2 character rest blank induction =>
      rw [symbols_of_blank blank] at read
      exact .blank blank (induction read)
  | case3 character rest solid number induction =>
      have stops : ∀ next ∈ (rest.dropWhile isNumberCharacter).head?,
          isNumberCharacter next = false := by
        intro next head
        have stopped := List.head?_dropWhile_not isNumberCharacter rest
        rw [Option.mem_def.1 head] at stopped
        simpa using stopped
      have inside : ∀ next ∈ character :: rest.takeWhile isNumberCharacter,
          isNumberCharacter next = true :=
        List.forall_mem_cons.2 ⟨number, fun next member => List.mem_takeWhile_imp member⟩
      rw [ofCharacters?, if_neg solid, if_pos number] at read
      obtain ⟨value, valued, read⟩ := Option.bind_eq_some_iff.1 read
      obtain ⟨others, behind, same⟩ := Option.bind_eq_some_iff.1 read
      cases same
      obtain ⟨decimal, rfl⟩ := (Number.read_run_iff inside).1 valued
      have written := Writes.number decimal stops (induction behind)
      rwa [List.cons_append, List.takeWhile_append_dropWhile] at written
  | case4 character rest solid noNumber induction =>
      rw [ofCharacters?, if_neg solid, if_neg noNumber] at read
      obtain ⟨symbol, spells, read⟩ := Option.bind_eq_some_iff.1 read
      obtain ⟨others, behind, same⟩ := Option.bind_eq_some_iff.1 read
      cases same
      exact .mark (of_character_iff.1 spells) (induction behind)

theorem written_character (written : Writes text symbols) :
    ∀ character ∈ text, Text.isBlank character = true ∨ isNumberCharacter character = true ∨
      ∃ symbol, ofCharacter? character = some symbol := by
  induction written with
  | nil => exact List.forall_mem_nil _
  | blank blank written induction => exact List.forall_mem_cons.2 ⟨Or.inl blank, induction⟩
  | mark spells written induction =>
      exact List.forall_mem_cons.2
        ⟨Or.inr (Or.inr ⟨_, of_character_iff.2 spells⟩), induction⟩
  | number decimal stops written induction =>
      refine List.forall_mem_append.2 ⟨?_, induction⟩
      intro character member
      exact Or.inr (Or.inl (decimal.inside character member))

theorem symbols_iff_written : ofCharacters? text = some symbols ↔ Writes text symbols :=
  ⟨written_of_symbols, symbols_of_written⟩

end ExpressionSymbol

namespace Expression

open ExpressionSymbol

variable {text : List Char} {tree : Expression} {value : Number}

theorem sum_of_characters (read : ofCharacters? text = some tree) :
    ∃ symbols, ExpressionSymbol.ofCharacters? text = some symbols ∧
      plain (readSum? symbols) = some (tree, []) := by
  obtain ⟨symbols, spelled, read⟩ := Option.bind_eq_some_iff.1 read
  obtain ⟨⟨found, behind, shorter⟩, sum, read⟩ := Option.bind_eq_some_iff.1 read
  refine ⟨symbols, spelled, ?_⟩
  cases behind with
  | nil =>
      cases read
      rw [sum]
      rfl
  | cons symbol behind => cases read

/-- A character that belongs to no symbol leaves a text without a value. -/
theorem evaluate_foreign {character : Char} (member : character ∈ text)
    (solid : Text.isBlank character = false) (noNumber : isNumberCharacter character = false)
    (noMark : ofCharacter? character = none) : evaluate? text = none := by
  cases read : Expression.ofCharacters? text with
  | none => rw [evaluate?, read, Option.map_none]
  | some tree =>
      obtain ⟨symbols, spelled, -⟩ := sum_of_characters read
      rcases written_character (symbols_iff_written.1 spelled) character member with
        blank | number | ⟨symbol, mark⟩
      · rw [solid] at blank
        cases blank
      · rw [noNumber] at number
        cases number
      · rw [noMark] at mark
        cases mark

/-- A text has a value exactly if it is written from symbols that the grammar derives, and then it
is the value of what they are derived as. Any other text has none. -/
theorem evaluates_iff_derived : evaluate? text = some value ↔
    ∃ symbols tree, Writes text symbols ∧ Derives .sum symbols tree ∧ tree.value = value := by
  constructor
  · intro evaluates
    obtain ⟨tree, read, valued⟩ := Option.map_eq_some_iff.1 evaluates
    obtain ⟨symbols, spelled, read⟩ := sum_of_characters read
    obtain ⟨front, pieces, derived⟩ := derived_of_read.2.1 symbols tree [] read
    rw [List.append_nil] at pieces
    exact ⟨symbols, tree, symbols_iff_written.1 spelled, pieces ▸ derived, valued⟩
  · rintro ⟨symbols, tree, written, derived, rfl⟩
    exact evaluate_derived (symbols_iff_written.2 written) derived

end Expression

end GridStore
