import GridStore.Proofs.Address.Addressable
import GridStore.Proofs.Address.Part

/-!
Addresses made of formulas, written as separate tokens or joined into one text. Main statement: in
either form they resolve to the values of the formulas, as long as these are exact; a zero among
them is refused as a bad signature, and otherwise a negative value as incorrect.
-/

set_option autoImplicit false

namespace GridStore

structure Settles {σ : Type} (integers : List Int) (result : EStateM.Result Error σ Span) :
    Prop where
  positive : (∀ integer ∈ integers, 1 ≤ integer) → ∃ span final, result = .ok span final ∧
    [(span.row : Int), span.column, span.rows, span.columns] = integers
  zero : 0 ∈ integers →
    ∃ signature final, result = .error (.range (.badSignature signature)) final
  negative : 0 ∉ integers → (∃ integer ∈ integers, integer < 0) →
    ∃ arguments final, result = .error (.range (.incorrect arguments)) final

structure SpelledFormula where
  formula : Formula
  text : String
  spelled : Formula.Spells .sum text.toList formula

/-- Formulas for the row and the column of a block, and for its height and its width where these
are not left out. -/
structure SymbolicAddress where
  row : SpelledFormula
  column : SpelledFormula
  extents : List (Option SpelledFormula) := []

namespace SymbolicAddress

def places (symbolic : SymbolicAddress) : List (Option SpelledFormula) :=
  some symbolic.row :: some symbolic.column :: symbolic.extents

def extent (metrics : Metric → Nat) (place : Option SpelledFormula) : Int :=
  place.elim 1 fun spelled => spelled.formula.value metrics

def coordinates (metrics : Metric → Nat) (symbolic : SymbolicAddress) : List Int :=
  [symbolic.row.formula.value metrics, symbolic.column.formula.value metrics,
    extent metrics symbolic.extents[0]?.join, extent metrics symbolic.extents[1]?.join]

def IsExact (metrics : Metric → Nat) (symbolic : SymbolicAddress) : Prop :=
  ∀ spelled, some spelled ∈ symbolic.places → spelled.formula.IsExact metrics

def tokenOfPlace : Option SpelledFormula → AddressToken
  | some spelled => .text spelled.text
  | none => .missing

def textOfPlace : Option SpelledFormula → String
  | some spelled => spelled.text
  | none => ""

def apart (symbolic : SymbolicAddress) : Address := .ofTokens (symbolic.places.map tokenOfPlace)

def joined (symbolic : SymbolicAddress) : Address :=
  .ofText (",".intercalate (symbolic.places.map textOfPlace))

end SymbolicAddress

namespace Address

variable {grid : Grid} {metrics : Metric → Nat} {cache : MetricCache}

section Integers

variable {values : List Number} {integers : List Int}

theorem any_zero_iff (stand : List.Forall₂ Number.IsInteger values integers) :
    values.any Number.isZero = true ↔ 0 ∈ integers := by
  induction stand with
  | nil => simp
  | cons first others induction =>
      rw [List.any_cons, Bool.or_eq_true, Number.is_zero_integer first, decide_eq_true_iff,
        induction, List.mem_cons, eq_comm]

theorem any_no_size_iff (stand : List.Forall₂ Number.IsInteger values integers)
    (small : ∀ integer ∈ integers, integer.natAbs ≤ exactBound) (nonzero : 0 ∉ integers) :
    values.any isNoSize = true ↔ ∃ integer ∈ integers, integer < 0 := by
  induction stand with
  | nil => simp
  | @cons value integer values integers first others induction =>
      rw [List.mem_cons, not_or] at nonzero
      have bounds := List.forall_mem_cons.1 small
      rw [List.any_cons, Bool.or_eq_true,
        is_no_size_integer first (Ne.symm nonzero.1) bounds.1, decide_eq_true_iff,
        induction bounds.2 nonzero.2]
      simp only [List.mem_cons, exists_eq_or_imp]

end Integers

/-- The tokens of an address stand for integers that numbers keep. -/
structure Stands (grid : Grid) (metrics : Metric → Nat) (address : Address)
    (row column rows columns : Int) : Prop where
  small : ∀ integer ∈ [row, column, rows, columns], integer.natAbs ≤ exactBound
  row : StandsFor grid metrics address.row row
  column : StandsFor grid metrics address.column column
  rows : StandsFor grid metrics (orOne address.rows) rows
  columns : StandsFor grid metrics (orOne address.columns) columns

section Refusals

variable {address : Address} {row column rows columns : Number}
  {cache₁ cache₂ cache₃ final : MetricCache}

theorem resolve_zero_tokens (rowed : coordinate grid address.row cache = .ok row cache₁)
    (columned : coordinate grid address.column cache₁ = .ok column cache₂)
    (tall : coordinate grid (orOne address.rows) cache₂ = .ok rows cache₃)
    (wide : coordinate grid (orOne address.columns) cache₃ = .ok columns final)
    (zero : [row, column, rows, columns].any Number.isZero = true) :
    resolveTokens grid address cache = .error (.range (.badSignature address.signature)) final := by
  rw [resolveTokens, Action.bind_of_ok rowed, Action.bind_of_ok columned, Action.bind_of_ok tall,
    Action.bind_of_ok wide]
  dsimp only
  rw [if_pos zero]
  rfl

theorem resolve_no_size_tokens (rowed : coordinate grid address.row cache = .ok row cache₁)
    (columned : coordinate grid address.column cache₁ = .ok column cache₂)
    (tall : coordinate grid (orOne address.rows) cache₂ = .ok rows cache₃)
    (wide : coordinate grid (orOne address.columns) cache₃ = .ok columns final)
    (nonzero : ¬[row, column, rows, columns].any Number.isZero = true)
    (noSize : [row, column, rows, columns].any isNoSize = true) :
    resolveTokens grid address cache =
      .error (.range (.incorrect (",".intercalate
        ([row, column, rows, columns].map Number.display)))) final := by
  rw [resolveTokens, Action.bind_of_ok rowed, Action.bind_of_ok columned, Action.bind_of_ok tall,
    Action.bind_of_ok wide]
  dsimp only
  rw [if_neg nonzero, if_pos noSize]
  rfl

end Refusals

theorem size_of_integer {integer : Int} (positive : 1 ≤ integer)
    (small : integer.natAbs ≤ exactBound) :
    (1 ≤ integer.toNat ∧ integer.toNat ≤ exactBound) ∧ (integer.toNat : Int) = integer := by omega

theorem settles_of_stands {address : Address} {row column rows columns : Int}
    (stands : Stands grid metrics address row column rows columns)
    (known : cache.known grid = metrics) :
    Settles [row, column, rows, columns] (resolveTokens grid address cache) := by
  obtain ⟨rowValue, cache₁, known₁, rowed, rowStands⟩ := stands.row cache known
  obtain ⟨columnValue, cache₂, known₂, columned, columnStands⟩ := stands.column cache₁ known₁
  obtain ⟨rowsValue, cache₃, known₃, tall, rowsStand⟩ := stands.rows cache₂ known₂
  obtain ⟨columnsValue, final, known₄, wide, columnsStand⟩ := stands.columns cache₃ known₃
  have all : List.Forall₂ Number.IsInteger [rowValue, columnValue, rowsValue, columnsValue]
      [row, column, rows, columns] :=
    .cons rowStands (.cons columnStands (.cons rowsStand (.cons columnsStand .nil)))
  have zero := any_zero_iff all
  refine ⟨?_, ?_, ?_⟩
  · intro positive
    simp only [List.forall_mem_cons] at positive
    have small := stands.small
    simp only [List.forall_mem_cons] at small
    obtain ⟨rowSize, rowSame⟩ := size_of_integer positive.1 small.1
    obtain ⟨columnSize, columnSame⟩ := size_of_integer positive.2.1 small.2.1
    obtain ⟨rowsSize, rowsSame⟩ := size_of_integer positive.2.2.1 small.2.2.1
    obtain ⟨columnsSize, columnsSame⟩ := size_of_integer positive.2.2.2.1 small.2.2.2.1
    rw [Number.eq_of_positive rowStands positive.1] at rowed
    rw [Number.eq_of_positive columnStands positive.2.1] at columned
    rw [Number.eq_of_positive rowsStand positive.2.2.1] at tall
    rw [Number.eq_of_positive columnsStand positive.2.2.2.1] at wide
    refine ⟨_, final, resolve_exact_tokens rowed columned tall wide rowSize columnSize rowsSize
      columnsSize, ?_⟩
    rw [rowSame, columnSame, rowsSame, columnsSame]
  · intro member
    exact ⟨_, final, resolve_zero_tokens rowed columned tall wide (zero.2 member)⟩
  · intro nonzero below
    have noSize := (any_no_size_iff all stands.small nonzero).2 below
    exact ⟨_, final, resolve_no_size_tokens rowed columned tall wide (mt zero.1 nonzero) noSize⟩

/-- A way to write formulas as tokens, and to leave them out. -/
structure Writes (grid : Grid) (metrics : Metric → Nat)
    (write : Option SpelledFormula → AddressToken) : Prop where
  absent : (write none).isPresent = false
  present : ∀ spelled : SpelledFormula, spelled.formula.IsExact metrics →
    (write (some spelled)).isPresent = true ∧
      StandsFor grid metrics (write (some spelled)) (spelled.formula.value metrics)

theorem tokens_write : Writes grid metrics SymbolicAddress.tokenOfPlace := by
  refine ⟨rfl, ?_⟩
  intro spelled exact
  refine ⟨?_, text_stands spelled.spelled exact⟩
  have nonempty := Formula.spelled_not_empty spelled.spelled
  simpa [SymbolicAddress.tokenOfPlace, AddressToken.isPresent] using nonempty

theorem parts_write : Writes grid metrics fun place =>
    tokenOfPart (SymbolicAddress.textOfPlace place).toList := by
  refine ⟨by decide +kernel, ?_⟩
  intro spelled exact
  exact part_stands spelled.spelled exact

theorem one_stands : StandsFor grid metrics (.number (.ofNat 1)) 1 :=
  number_stands (Number.integer_of_nat (by decide))

section Written

variable {write : Option SpelledFormula → AddressToken} {symbolic : SymbolicAddress}

theorem of_tokens_eq (row column : AddressToken) (extents : List AddressToken) :
    ofTokens (row :: column :: extents) =
      ⟨row, column, extents[0]?.getD .missing, extents[1]?.getD .missing⟩ := by
  cases extents with
  | nil => rfl
  | cons rows extents => cases extents <;> rfl

theorem extent_stands (writes : Writes grid metrics write) {extents : List (Option SpelledFormula)}
    (exact : ∀ spelled, some spelled ∈ extents → spelled.formula.IsExact metrics) (place : Nat) :
    StandsFor grid metrics (orOne ((extents.map write)[place]?.getD .missing))
      (SymbolicAddress.extent metrics extents[place]?.join) := by
  rw [List.getElem?_map]
  cases found : extents[place]? with
  | none => exact one_stands
  | some written =>
      cases written with
      | none =>
          have left : orOne (write none) = .number (.ofNat 1) := by
            rw [orOne, writes.absent]
            rfl
          rw [Option.map_some, Option.getD_some, left]
          exact one_stands
      | some spelled =>
          have member : some spelled ∈ extents := List.mem_of_getElem? found
          obtain ⟨present, stands⟩ := writes.present spelled (exact spelled member)
          rw [Option.map_some, Option.getD_some, orOne, if_pos present]
          exact stands

theorem extent_small {extents : List (Option SpelledFormula)}
    (exact : ∀ spelled, some spelled ∈ extents → spelled.formula.IsExact metrics) (place : Nat) :
    (SymbolicAddress.extent metrics extents[place]?.join).natAbs ≤ exactBound := by
  have one : (1 : Int).natAbs ≤ exactBound := by decide
  cases found : extents[place]? with
  | none => exact one
  | some written =>
      cases written with
      | none => exact one
      | some spelled => exact Formula.exact_value (exact spelled (List.mem_of_getElem? found))

/-- Tokens that resolve to numbers are no functions, so they are resolved one by one. -/
theorem resolve_present_parts {address : Address} {integer : Int}
    (rowPresent : address.row.isPresent = true) (columnPresent : address.column.isPresent = true)
    (stands : StandsFor grid metrics address.row integer) (known : cache.known grid = metrics) :
    resolveParts grid address = resolveTokens grid address := by
  obtain ⟨row, column, rows, columns⟩ := address
  cases row with
  | missing => cases rowPresent
  | number value => simp only [resolveParts, rowPresent, columnPresent, Bool.and_self, if_true]
  | text content => simp only [resolveParts, rowPresent, columnPresent, Bool.and_self, if_true]
  | resolver find =>
      obtain ⟨value, final, -, resolved, -⟩ := stands cache known
      cases resolved

theorem settles_written (writes : Writes grid metrics write) (exact : symbolic.IsExact metrics)
    (known : cache.known grid = metrics) :
    Settles (symbolic.coordinates metrics)
      (resolveParts grid (.ofTokens (symbolic.places.map write)) cache) := by
  have exactRow := exact symbolic.row List.mem_cons_self
  have exactColumn := exact symbolic.column (List.mem_cons_of_mem _ List.mem_cons_self)
  have exactExtents : ∀ spelled, some spelled ∈ symbolic.extents →
      spelled.formula.IsExact metrics := fun spelled member =>
    exact spelled (List.mem_cons_of_mem _ (List.mem_cons_of_mem _ member))
  obtain ⟨rowPresent, row⟩ := writes.present symbolic.row exactRow
  obtain ⟨columnPresent, column⟩ := writes.present symbolic.column exactColumn
  have rows := extent_stands writes exactExtents 0
  have columns := extent_stands writes exactExtents 1
  have small : ∀ integer ∈ symbolic.coordinates metrics, integer.natAbs ≤ exactBound := by
    simp only [SymbolicAddress.coordinates, List.forall_mem_cons]
    exact ⟨Formula.exact_value exactRow, Formula.exact_value exactColumn,
      extent_small exactExtents 0, extent_small exactExtents 1, fun _ member => by cases member⟩
  rw [SymbolicAddress.places, List.map_cons, List.map_cons, of_tokens_eq,
    resolve_present_parts rowPresent columnPresent row known]
  exact settles_of_stands ⟨small, row, column, rows, columns⟩ known

end Written

section Texts

variable {symbolic : SymbolicAddress}

theorem parts_not_empty (separator : Char) (text : List Char) : parts separator text ≠ [] := by
  cases text with
  | nil => exact List.cons_ne_nil _ _
  | cons character rest =>
      rw [parts]
      split
      · exact List.cons_ne_nil _ _
      · split <;> exact List.cons_ne_nil _ _

theorem parts_eq_split_on (separator : Char) (text : List Char) :
    parts separator text = text.splitOn separator := by
  induction text with
  | nil => rw [parts, List.splitOn_nil]
  | cons character rest induction =>
      rw [List.splitOn_eq_splitOnP, List.splitOnP_cons_eq_if_modifyHead,
        ← List.splitOn_eq_splitOnP, ← induction, parts]
      by_cases same : character = separator
      · simp [same]
      · have nonempty := parts_not_empty separator rest
        revert nonempty
        cases parts separator rest with
        | nil => exact fun nonempty => absurd rfl nonempty
        | cons part others => simp [same]

/-- At least two texts without commas, joined by commas, are taken apart again. -/
theorem parted_intercalate {first second : String} {texts : List String}
    (noComma : ∀ text ∈ first :: second :: texts, ',' ∉ text.toList) :
    (ofText (",".intercalate (first :: second :: texts))).parted =
      .ofTokens ((first :: second :: texts).map fun text => tokenOfPart text.toList) := by
  have characters : (",".intercalate (first :: second :: texts)).toList =
      [','].intercalate ((first :: second :: texts).map String.toList) := String.toList_intercalate
  have apart : ∀ part ∈ (first :: second :: texts).map String.toList, ',' ∉ part := by
    intro part member
    obtain ⟨text, listed, rfl⟩ := List.mem_map.1 member
    exact noComma text listed
  have comma : (",".intercalate (first :: second :: texts)).toList.contains ',' = true := by
    rw [characters, List.map_cons, List.map_cons, List.intercalate_cons_cons]
    simp
  have several : (first :: second :: texts).map String.toList ≠ [] := List.cons_ne_nil _ _
  rw [parted, ofText]
  dsimp only
  rw [if_pos comma, split, characters, parts_eq_split_on, List.splitOn_intercalate ',' apart several,
    List.map_map]
  rfl

theorem no_comma_in_place (place : Option SpelledFormula) :
    ',' ∉ (SymbolicAddress.textOfPlace place).toList := by
  cases place with
  | none => decide
  | some spelled => exact Formula.absent_of_spelled (by decide) spelled.spelled

theorem parted_apart : symbolic.apart.parted = symbolic.apart := by
  have noComma : symbolic.row.text.toList.contains ',' = false := by
    rw [List.contains_eq_mem, decide_eq_false_iff_not]
    exact no_comma_in_place (some symbolic.row)
  have row : symbolic.apart.row = .text symbolic.row.text := by
    rw [SymbolicAddress.apart, SymbolicAddress.places, List.map_cons, List.map_cons, of_tokens_eq]
    rfl
  rw [parted, row]
  dsimp only
  rw [noComma, if_neg Bool.false_ne_true]

theorem parted_joined : symbolic.joined.parted =
    .ofTokens (symbolic.places.map fun place =>
      tokenOfPart (SymbolicAddress.textOfPlace place).toList) := by
  have noComma : ∀ text ∈ symbolic.places.map SymbolicAddress.textOfPlace, ',' ∉ text.toList := by
    intro text member
    obtain ⟨place, -, rfl⟩ := List.mem_map.1 member
    exact no_comma_in_place place
  have joined := parted_intercalate noComma
  rw [← List.map_cons, ← List.map_cons, List.map_map] at joined
  exact joined

end Texts

end Address

namespace Sheet

variable {sheet : Sheet} {address : Address}

theorem settles_range {integers : List Int}
    (settles : Settles integers (address.resolve sheet.grid sheet.cache)) :
    Settles integers (Sheet.range address sheet) := by
  refine ⟨?_, ?_, ?_⟩
  · intro positive
    obtain ⟨span, cache, resolved, same⟩ := settles.positive positive
    exact ⟨span, _, Region.range_ok_iff.2 ⟨cache, resolved, rfl⟩, same⟩
  · intro zero
    obtain ⟨signature, cache, resolved⟩ := settles.zero zero
    refine ⟨signature, { sheet with cache }, ?_⟩
    rw [Sheet.range, resolved]
  · intro nonzero negative
    obtain ⟨arguments, cache, resolved⟩ := settles.negative nonzero negative
    refine ⟨arguments, { sheet with cache }, ?_⟩
    rw [Sheet.range, resolved]

/-- An address made of formulas resolves to their values, whether they are given one by one or
joined by commas. -/
theorem range_of_symbolic {symbolic : SymbolicAddress} (exact : symbolic.IsExact sheet.known) :
    Settles (symbolic.coordinates sheet.known) (Sheet.range symbolic.apart sheet) ∧
      Settles (symbolic.coordinates sheet.known) (Sheet.range symbolic.joined sheet) := by
  constructor
  · apply settles_range
    rw [Address.resolve_parted, Address.parted_apart]
    exact Address.settles_written Address.tokens_write exact rfl
  · apply settles_range
    rw [Address.resolve_parted, Address.parted_joined]
    exact Address.settles_written Address.parts_write exact rfl

def lastRowButTwo : SpelledFormula where
  formula := .difference (.measure .maxRows) (.product (.literal 2) (.literal 1))
  text := "mr -2*1"
  spelled := by
    have characters : "mr -2*1".toList =
        (['m', 'r'] ++ [' ']) ++ '-' :: (['2'] ++ '*' :: ['1']) := by decide
    have two : Formula.Spells .factor ['2'] (.literal 2) :=
      .literal (by decide) (List.forall_mem_singleton.2 rfl)
    have one : Formula.Spells .factor ['1'] (.literal 1) :=
      .literal (by decide) (List.forall_mem_singleton.2 rfl)
    rw [characters]
    exact .difference (.beforeBlank rfl (.term (.factor (.measure .maxRows))))
      (.product (.factor two) one)

def lastColumnButOne : SpelledFormula where
  formula := .negative (.difference (.literal 1) (.measure .maxColumns))
  text := "-(1-mc)"
  spelled := by
    have characters : "-(1-mc)".toList =
        '-' :: '(' :: ((['1'] ++ '-' :: ['m', 'c']) ++ [')']) := by decide
    have one : Formula.Spells .factor ['1'] (.literal 1) :=
      .literal (by decide) (List.forall_mem_singleton.2 rfl)
    have difference : Formula.Spells .sum (['1'] ++ '-' :: ['m', 'c'])
        (.difference (.literal 1) (.measure .maxColumns)) :=
      .difference (.term (.factor one)) (.factor (.measure .maxColumns))
    rw [characters]
    exact .term (.factor (.negative (.enclosed difference)))

def acrossTheMiddle : SymbolicAddress :=
  ⟨lastRowButTwo, lastColumnButOne, [none, some lastColumnButOne]⟩

theorem across_the_middle_resolves :
    acrossTheMiddle.joined.display = "mr -2*1,-(1-mc),,-(1-mc),,," ∧
      acrossTheMiddle.IsExact small.known ∧
      acrossTheMiddle.coordinates small.known = [2, 2, 1, 2] ∧
      Settles (acrossTheMiddle.coordinates small.known) (Sheet.range acrossTheMiddle.apart small) ∧
      Settles (acrossTheMiddle.coordinates small.known)
        (Sheet.range acrossTheMiddle.joined small) := by
  have exactRow : lastRowButTwo.formula.IsExact small.known := by
    unfold Formula.IsExact
    decide
  have exactColumn : lastColumnButOne.formula.IsExact small.known := by
    unfold Formula.IsExact
    decide
  have exact : acrossTheMiddle.IsExact small.known := by
    intro spelled member
    have listed : spelled = lastRowButTwo ∨ spelled = lastColumnButOne := by
      simpa [acrossTheMiddle, SymbolicAddress.places] using member
    rcases listed with rfl | rfl
    · exact exactRow
    · exact exactColumn
  exact ⟨by decide, exact, by decide, range_of_symbolic exact⟩

end Sheet

end GridStore
