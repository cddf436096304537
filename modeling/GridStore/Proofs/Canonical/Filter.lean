import GridStore.Filter.Basic
import GridStore.Proofs.Canonical.Cell

/-!
Canonical filters, which compare with blanks in place of empty texts. A canonical filter accepts the
canonical form of an entity exactly if the filter accepts the entity.
-/

set_option autoImplicit false

namespace GridStore

theorem field_equals_canonical (field : Option Cell) (cell : Cell) :
    fieldEquals (field.map Cell.canonical) cell.canonical = fieldEquals field cell := by
  rw [fieldEquals, Option.any_map, fieldEquals]
  simp only [Cell.equals_canonical]

def Operand.canonical : Operand → Operand
  | .value cell => .value cell.canonical
  | .list cells => .list (cells.map Cell.canonical)
  | .null => .null

theorem Operator.test_canonical (operator : Operator) (field : Option Cell) (operand : Operand) :
    operator.test (field.map Cell.canonical) operand.canonical = operator.test field operand := by
  cases operand with
  | value cell =>
      cases operator <;>
        simp [test, Operand.canonical, field_equals_canonical, Option.any_map]
  | list cells =>
      cases operator <;>
        simp [test, Operand.canonical, field_equals_canonical, List.any_map, Function.comp_def]
  | null => cases operator <;> rfl

def Condition.canonical : Condition → Condition
  | .equalTo cell => .equalTo cell.canonical
  | .operators tests => .operators (tests.map fun test => (test.1, test.2.canonical))
  | .null => .null

theorem Condition.holds_canonical (condition : Condition) (field : Option Cell) :
    condition.canonical.holds (field.map Cell.canonical) = condition.holds field := by
  cases condition with
  | equalTo cell => exact field_equals_canonical field cell
  | operators tests =>
      simp only [holds, canonical, List.all_map, Function.comp_def, Operator.test_canonical]
  | null => rfl

namespace Filter

mutual

def canonical : Filter → Filter
  | mk conditions conjunction alternative =>
      mk (Fields.mapValues Condition.canonical conditions) (canonicalGroup conjunction)
        (canonicalGroup alternative)

def canonicalGroup : Option (List Filter) → Option (List Filter)
  | none => none
  | some filters => some (canonicalFilters filters)

def canonicalFilters : List Filter → List Filter
  | [] => []
  | filter :: rest => canonical filter :: canonicalFilters rest

end

theorem is_met_canonical (entity : Entity) (condition : String × Condition) :
    isMet entity.canonical (condition.1, condition.2.canonical) = isMet entity condition := by
  rw [isMet, isMet, Entity.get_canonical, Condition.holds_canonical]

mutual

theorem accepts_canonical (entity : Entity) (filter : Filter) :
    filter.canonical.accepts entity.canonical = filter.accepts entity := by
  cases filter with
  | mk conditions conjunction alternative =>
      simp only [canonical, accepts]
      rw [Fields.mapValues, List.all_map]
      simp only [Function.comp_def, is_met_canonical]
      cases conjunction with
      | none =>
          cases alternative with
          | none => rfl
          | some others =>
              simp only [canonicalGroup, conjunctionAccepts, alternativeAccepts]
              rw [any_accepts_canonical entity others]
      | some filters =>
          cases alternative with
          | none =>
              simp only [canonicalGroup, conjunctionAccepts, alternativeAccepts]
              rw [all_accept_canonical entity filters]
          | some others =>
              simp only [canonicalGroup, conjunctionAccepts, alternativeAccepts]
              rw [all_accept_canonical entity filters, any_accepts_canonical entity others]

theorem all_accept_canonical (entity : Entity) (filters : List Filter) :
    allAccept entity.canonical (canonicalFilters filters) = allAccept entity filters := by
  cases filters with
  | nil => rfl
  | cons filter rest =>
      simp only [canonicalFilters, allAccept]
      rw [accepts_canonical entity filter, all_accept_canonical entity rest]

theorem any_accepts_canonical (entity : Entity) (filters : List Filter) :
    anyAccepts entity.canonical (canonicalFilters filters) = anyAccepts entity filters := by
  cases filters with
  | nil => rfl
  | cons filter rest =>
      simp only [canonicalFilters, anyAccepts]
      rw [accepts_canonical entity filter, any_accepts_canonical entity rest]

end

end Filter

end GridStore
