import GridStore.Filter.Equality
import GridStore.Proofs.Beside
import GridStore.Proofs.Cell.Order

/-!
Equal filters and equal entities. Equality is by value: a blank equals an empty text, and zero
equals negative zero, so equal filters need not be the same, and neither need equal entities. Still
nothing that a filter does with a field tells the one from the other.
-/

set_option autoImplicit false

namespace GridStore

theorem list_equals_iff {α : Type} {same : α → α → Bool} {left right : List α} :
    listEquals same left right = true ↔
      List.Forall₂ (fun first second => same first second = true) left right := by
  induction left generalizing right with
  | nil => cases right <;> simp [listEquals]
  | cons first rest induction =>
      cases right with
      | nil => simp [listEquals]
      | cons second others => simp [listEquals, induction]

/-- Both fields are absent, or they hold equal cells. -/
inductive FieldsEqual : Option Cell → Option Cell → Prop where
  | absent : FieldsEqual none none
  | held {left right : Cell} (equal : left.equals right = true) :
      FieldsEqual (some left) (some right)

variable {field other : Option Cell}

theorem FieldsEqual.any_congr {test another : Cell → Bool} (fields : FieldsEqual field other)
    (agree : ∀ left right, left.equals right = true → test left = another right) :
    field.any test = other.any another := by
  cases fields with
  | absent => rfl
  | held equal => exact agree _ _ equal

theorem field_equals_congr (fields : FieldsEqual field other) {left right : Cell}
    (cells : left.equals right = true) : fieldEquals field left = fieldEquals other right := by
  apply fields.any_congr
  intro held another equal
  exact Cell.equals_congr equal cells

theorem field_compares_congr (fields : FieldsEqual field other) {left right : Cell}
    (cells : left.equals right = true) (orders : List Ordering) :
    field.any (fun held => held.comparesAs orders left) =
      other.any fun held => held.comparesAs orders right := by
  apply fields.any_congr
  intro held another equal
  rw [Cell.comparesAs, Cell.comparesAs, Cell.compare_congr equal cells]

/-- An operator decides alike on equal fields and equal operands, of whichever form these are. -/
theorem Operator.test_congr (operator : Operator) (fields : FieldsEqual field other)
    {left right : Operand} (operands : left.equals right = true) :
    operator.test field left = operator.test other right := by
  cases left with
  | value cell =>
      cases right with
      | value another =>
          have equal := field_equals_congr fields operands
          have ordered := field_compares_congr fields operands operator.acceptedOrders
          -- A single value is no list, so neither test of membership passes, whatever is held.
          cases operator with
          | notEqual => exact congrArg not equal
          | isIn | notIn => rfl
          | atLeast | atMost | greater | less => exact ordered
      | list | null => cases operands
  | list cells =>
      cases right with
      | list others =>
          have listed := any_of_beside (list_equals_iff.1 operands) fun _ _ equal =>
            field_equals_congr fields equal
          cases operator with
          | isIn => exact listed
          | notIn => exact congrArg not listed
          | notEqual | atLeast | atMost | greater | less => rfl
      | value | null => cases operands
  | null =>
      cases right with
      | null => cases operator <;> rfl
      | value | list => cases operands

theorem Condition.holds_congr (fields : FieldsEqual field other) {left right : Condition}
    (conditions : left.equals right = true) : left.holds field = right.holds other := by
  cases left with
  | equalTo cell =>
      cases right with
      | equalTo another => exact field_equals_congr fields conditions
      | operators | null => cases conditions
  | operators tests =>
      cases right with
      | operators others =>
          apply all_of_beside (list_equals_iff.1 conditions)
          intro test another equal
          obtain ⟨operator, operand⟩ := Bool.and_eq_true_iff.1 equal
          show test.1.test field test.2 = another.1.test other another.2
          rw [eq_of_beq operator]
          exact another.1.test_congr fields operand
      | equalTo | null => cases conditions
  | null =>
      cases right with
      | null => rfl
      | equalTo | operators => cases conditions

namespace Entity

variable {entity another : Entity}

theorem equals_iff_beside :
    entity.equals another = true ↔
      List.Forall₂ (fun left right => left.1 = right.1 ∧ left.2.equals right.2 = true)
        entity.fields another.fields := by
  rw [equals, Bool.and_eq_true, beq_iff_eq, List.forall₂_iff_zip, List.all_eq_true]
  simp only [Prod.forall, Bool.and_eq_true, beq_iff_eq]

/-- By whichever name a field is looked up, the entities lack it or hold equal cells in it. -/
def IsFieldwise (entity another : Entity) : Prop :=
  ∀ name, FieldsEqual (entity.get? name) (another.get? name)

theorem fieldwise_of_equals (entities : entity.equals another = true) :
    entity.IsFieldwise another := by
  intro name
  rw [equals_iff_beside] at entities
  rw [get?, get?]
  generalize entity.fields = lefts at entities
  generalize another.fields = rights at entities
  induction entities with
  | nil => exact .absent
  | @cons left right rest others here later induction =>
      obtain ⟨first, cell⟩ := left
      obtain ⟨second, other⟩ := right
      obtain ⟨rfl, equal⟩ := here
      rw [Fields.get?, Fields.get?]
      split
      · exact .held equal
      · exact induction

end Entity

namespace Filter

variable {entity another : Entity}

theorem all_met_congr (alike : entity.IsFieldwise another)
    {left right : List (String × Condition)}
    (equal : listEquals (fun first second => first.1 == second.1 && first.2.equals second.2)
      left right = true) : left.all (isMet entity) = right.all (isMet another) := by
  apply all_of_beside (list_equals_iff.1 equal)
  intro first second same
  obtain ⟨name, condition⟩ := Bool.and_eq_true_iff.1 same
  rw [isMet, isMet, eq_of_beq name]
  exact Condition.holds_congr (alike second.1) condition

mutual

theorem accepts_congr (alike : entity.IsFieldwise another) (left right : Filter)
    (filters : left.equals right = true) : left.accepts entity = right.accepts another := by
  cases left with
  | mk conditions conjunction alternative =>
      cases right with
      | mk conditions' conjunction' alternative' =>
          rw [equals, Bool.and_eq_true, Bool.and_eq_true] at filters
          obtain ⟨⟨conditioned, conjoined⟩, alternated⟩ := filters
          rw [accepts, accepts, all_met_congr alike conditioned,
            conjunction_congr alike conjunction conjunction' conjoined,
            alternative_congr alike alternative alternative' alternated]

theorem conjunction_congr (alike : entity.IsFieldwise another) (left right : Option (List Filter))
    (groups : groupEquals left right = true) :
    conjunctionAccepts entity left = conjunctionAccepts another right := by
  cases left with
  | none =>
      cases right with
      | none => rfl
      | some => simp [groupEquals] at groups
  | some filters =>
      cases right with
      | none => simp [groupEquals] at groups
      | some filters' =>
          rw [groupEquals] at groups
          rw [conjunctionAccepts, conjunctionAccepts,
            all_accept_congr alike filters filters' groups]

theorem alternative_congr (alike : entity.IsFieldwise another) (left right : Option (List Filter))
    (groups : groupEquals left right = true) :
    alternativeAccepts entity left = alternativeAccepts another right := by
  cases left with
  | none =>
      cases right with
      | none => rfl
      | some => simp [groupEquals] at groups
  | some filters =>
      cases right with
      | none => simp [groupEquals] at groups
      | some filters' =>
          rw [groupEquals] at groups
          rw [alternativeAccepts, alternativeAccepts,
            any_accepts_congr alike filters filters' groups]

theorem all_accept_congr (alike : entity.IsFieldwise another) (lefts rights : List Filter)
    (filters : filtersEqual lefts rights = true) :
    allAccept entity lefts = allAccept another rights := by
  cases lefts with
  | nil =>
      cases rights with
      | nil => rfl
      | cons => simp [filtersEqual] at filters
  | cons left rest =>
      cases rights with
      | nil => simp [filtersEqual] at filters
      | cons right others =>
          rw [filtersEqual, Bool.and_eq_true] at filters
          rw [allAccept, allAccept, accepts_congr alike left right filters.1,
            all_accept_congr alike rest others filters.2]

theorem any_accepts_congr (alike : entity.IsFieldwise another) (lefts rights : List Filter)
    (filters : filtersEqual lefts rights = true) :
    anyAccepts entity lefts = anyAccepts another rights := by
  cases lefts with
  | nil =>
      cases rights with
      | nil => rfl
      | cons => simp [filtersEqual] at filters
  | cons left rest =>
      cases rights with
      | nil => simp [filtersEqual] at filters
      | cons right others =>
          rw [filtersEqual, Bool.and_eq_true] at filters
          rw [anyAccepts, anyAccepts, accepts_congr alike left right filters.1,
            any_accepts_congr alike rest others filters.2]

end

/-- Filters that are equal accept the same of entities that are equal. -/
theorem equal_filters_accept_alike {left right : Filter} (filters : left.equals right = true)
    (entities : entity.equals another = true) : left.accepts entity = right.accepts another :=
  accepts_congr (Entity.fieldwise_of_equals entities) left right filters

def newborn (zero nothing : Cell) : Entity := .ofList [("age", zero), ("name", nothing)]

def newborns (zero nothing : Cell) : Filter :=
  ((empty.whereOperator "age" .notIn (.list [.string "0", nothing])).withConjunction
    [empty.whereOperator "age" .atLeast (.value zero)]).withAlternative
      [empty.whereOperator "name" .notEqual (.value nothing),
        (empty.whereEquals "name" nothing).whereOperator "age" .atMost (.value zero)]

theorem newborns_accept_alike :
    (newborns (.number (.zero false)) .empty).equals
        (newborns (.number (.zero true)) (.string "")) = true ∧
      (newborn (.number (.zero true)) (.string "")).equals
        (newborn (.number (.zero false)) .empty) = true ∧
      (newborns (.number (.zero false)) .empty).accepts
          (newborn (.number (.zero true)) (.string "")) =
        (newborns (.number (.zero true)) (.string "")).accepts
          (newborn (.number (.zero false)) .empty) := by
  have filters : (newborns (.number (.zero false)) .empty).equals
      (newborns (.number (.zero true)) (.string "")) = true := by decide
  have entities : (newborn (.number (.zero true)) (.string "")).equals
      (newborn (.number (.zero false)) .empty) = true := by decide
  exact ⟨filters, entities, equal_filters_accept_alike filters entities⟩

end Filter

end GridStore
