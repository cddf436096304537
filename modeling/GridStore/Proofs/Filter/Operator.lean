import GridStore.Filter.OfJson
import GridStore.Proofs.Cell.Order

/-!
Operators as they are written: what each of them asks of a field, by the JSON value behind it.

A value that is neither `null` nor an array is compared with the field, and only fields that are
there and of its kind compare. `null` and arrays differ from every field and are ordered against
none. Membership wants an array, in which `null` stands for nothing.
-/

set_option autoImplicit false

namespace GridStore

/-- A value that can be compared with a field: neither `null` nor an array. -/
def Json.IsSingle : Json → Prop
  | .null | .array _ => False
  | _ => True

/-- The field is there, and compares with a cell in one of the given orders. -/
def FieldCompares (field : Option Cell) (orders : List Ordering) (cell : Cell) : Prop :=
  ∃ held order, field = some held ∧ Cell.Compared held cell order ∧ order ∈ orders

variable {field : Option Cell} {cell : Cell} {operand : Json}

theorem field_compares_iff {orders : List Ordering} :
    (field.any fun held => held.comparesAs orders cell) = true ↔
      FieldCompares field orders cell := by
  constructor
  · intro compares
    obtain ⟨held, there, accepted⟩ := (Option.any_eq_true _ _).1 compares
    obtain ⟨order, compared, listed⟩ := (Option.any_eq_true _ _).1 accepted
    exact ⟨held, order, there, Cell.compare_iff.1 compared, List.contains_iff_mem.1 listed⟩
  · rintro ⟨held, order, there, compared, listed⟩
    rw [there, Option.any_some, Cell.comparesAs, Cell.compare_iff.2 compared, Option.any_some]
    exact List.contains_iff_mem.2 listed

theorem field_equals_iff : fieldEquals field cell = true ↔ FieldCompares field [.eq] cell := by
  constructor
  · intro equal
    obtain ⟨held, there, same⟩ := (Option.any_eq_true _ _).1 equal
    exact ⟨held, .eq, there, Cell.equals_iff.1 same, List.mem_singleton_self _⟩
  · rintro ⟨held, order, there, compared, listed⟩
    rw [List.mem_singleton.1 listed] at compared
    rw [fieldEquals, there, Option.any_some]
    exact Cell.equals_iff.2 compared

namespace Operator

theorem of_key_iff {key : String} {operator : Operator} :
    ofKey? key = some operator ↔ operator.key = key := by
  constructor
  · intro found
    have passes := List.find?_some found
    exact eq_of_beq passes
  · rintro rfl
    cases operator <;> rfl

/-- What an operator, written with a JSON value, asks of a field. -/
def Asks (field : Option Cell) (operand : Json) : Operator → Prop
  | .atLeast => operand.IsSingle ∧ FieldCompares field [.gt, .eq] (.ofJson operand)
  | .atMost => operand.IsSingle ∧ FieldCompares field [.lt, .eq] (.ofJson operand)
  | .greater => operand.IsSingle ∧ FieldCompares field [.gt] (.ofJson operand)
  | .less => operand.IsSingle ∧ FieldCompares field [.lt] (.ofJson operand)
  | .notEqual => operand.IsSingle → ¬FieldCompares field [.eq] (.ofJson operand)
  | .isIn => ∃ items, operand = .array items ∧
      ∃ item ∈ items, item.isNull = false ∧ FieldCompares field [.eq] (.ofJson item)
  | .notIn => ∃ items, operand = .array items ∧
      ∀ item ∈ items, item.isNull = false → ¬FieldCompares field [.eq] (.ofJson item)

theorem operand_of_single (single : operand.IsSingle) :
    Operand.ofJson operand = .value (.ofJson operand) := by
  cases operand with
  | null | array => exact single.elim
  | _ => rfl

theorem listed_iff {items : List Json} :
    ((items.filter fun item => !item.isNull).map Cell.ofJson).any (fieldEquals field) = true ↔
      ∃ item ∈ items, item.isNull = false ∧ FieldCompares field [.eq] (.ofJson item) := by
  simp only [List.any_map, List.any_filter, List.any_eq_true, Function.comp_apply,
    Bool.and_eq_true, Bool.not_eq_true', field_equals_iff]

theorem test_single (single : operand.IsSingle) (operator : Operator) :
    operator.test field (.ofJson operand) = true ↔ operator.Asks field operand := by
  rw [operand_of_single single]
  have noList : ∀ items, operand ≠ .array items := by
    rintro items rfl
    exact single
  cases operator with
  | atLeast | atMost | greater | less =>
      exact field_compares_iff.trans ⟨fun compares => ⟨single, compares⟩, And.right⟩
  | notEqual =>
      rw [test, Bool.not_eq_true', Bool.eq_false_iff, ne_eq, field_equals_iff]
      exact ⟨fun differs _ => differs, fun differs => differs single⟩
  | isIn | notIn =>
      constructor
      · intro passed
        cases passed
      · rintro ⟨items, same, -⟩
        exact absurd same (noList items)

theorem test_list (items : List Json) (operator : Operator) :
    operator.test field (.ofJson (.array items)) = true ↔
      operator.Asks field (.array items) := by
  cases operator with
  | atLeast | atMost | greater | less =>
      constructor
      · intro passed
        cases passed
      · rintro ⟨single, -⟩
        exact single.elim
  | notEqual => exact ⟨fun _ single => single.elim, fun _ => rfl⟩
  | isIn =>
      refine listed_iff.trans ⟨fun found => ⟨items, rfl, found⟩, ?_⟩
      rintro ⟨others, same, found⟩
      rw [Json.array.inj same]
      exact found
  | notIn =>
      have absent : notIn.test field (.ofJson (.array items)) = true ↔
          ∀ item ∈ items, item.isNull = false → ¬FieldCompares field [.eq] (.ofJson item) := by
        rw [Operand.ofJson, test, Bool.not_eq_true', Bool.eq_false_iff, ne_eq, listed_iff]
        simp only [not_exists, not_and]
      refine absent.trans ⟨fun none => ⟨items, rfl, none⟩, ?_⟩
      rintro ⟨others, same, none⟩
      rw [Json.array.inj same]
      exact none

theorem test_null (operator : Operator) :
    operator.test field (.ofJson .null) = true ↔ operator.Asks field .null := by
  cases operator with
  | notEqual => exact ⟨fun _ single => single.elim, fun _ => rfl⟩
  | isIn | notIn =>
      constructor
      · intro passed
        cases passed
      · rintro ⟨items, same, -⟩
        cases same
  | _ =>
      constructor
      · intro passed
        cases passed
      · rintro ⟨single, -⟩
        exact single.elim

theorem test_iff (operator : Operator) (operand : Json) :
    operator.test field (.ofJson operand) = true ↔ operator.Asks field operand := by
  cases operand with
  | null => exact test_null operator
  | array items => exact test_list items operator
  | _ =>
      apply test_single
      trivial

end Operator

end GridStore
