import GridStore.Entity

/-!
Filters: declarative queries over entities.

Conditions on fields all have to hold, and so do all filters of a conjunction; of an alternative,
when there is one, some filter has to hold. An absent field differs from everything: it passes
"not equal" and "not in" and fails every other condition.
-/

set_option autoImplicit false

namespace GridStore

inductive Operator where
  | atLeast
  | atMost
  | greater
  | less
  | notEqual
  | isIn
  | notIn
deriving DecidableEq, Repr

namespace Operator

def key : Operator → String
  | .atLeast => "$gte"
  | .atMost => "$lte"
  | .greater => "$gt"
  | .less => "$lt"
  | .notEqual => "$ne"
  | .isIn => "$in"
  | .notIn => "$nin"

def all : List Operator := [.atLeast, .atMost, .greater, .less, .notEqual, .isIn, .notIn]

def ofKey? (key : String) : Option Operator := all.find? fun operator => operator.key == key

/-- The orders that an ordering operator accepts; the others accept none. -/
def acceptedOrders : Operator → List Ordering
  | .atLeast => [.gt, .eq]
  | .atMost => [.lt, .eq]
  | .greater => [.gt]
  | .less => [.lt]
  | .notEqual | .isIn | .notIn => []

end Operator

/-- The right-hand side of an operator. Nothing equals `null` and nothing is ordered against it. -/
inductive Operand where
  | value (cell : Cell)
  | list (cells : List Cell)
  | null
deriving DecidableEq

def fieldEquals (field : Option Cell) (cell : Cell) : Bool := field.any fun held => held.equals cell

def Operator.test (operator : Operator) (field : Option Cell) (operand : Operand) : Bool :=
  match operator, operand with
  | .notEqual, .value cell => !fieldEquals field cell
  | .notEqual, .list _ | .notEqual, .null => true
  | .isIn, .list cells => cells.any (fieldEquals field)
  | .notIn, .list cells => !cells.any (fieldEquals field)
  | .isIn, .value _ | .notIn, .value _ => false
  | operator, .value cell => field.any fun held => held.comparesAs operator.acceptedOrders cell
  | _, .list _ | _, .null => false

inductive Condition where
  | equalTo (cell : Cell)
  | operators (tests : List (Operator × Operand))
  | null
deriving DecidableEq

def Condition.holds (condition : Condition) (field : Option Cell) : Bool :=
  match condition with
  | .equalTo cell => fieldEquals field cell
  | .operators tests => tests.all fun (operator, operand) => operator.test field operand
  | .null => false

inductive Filter where
  | mk (conditions : List (String × Condition)) (conjunction alternative : Option (List Filter))

namespace Filter

def conditions : Filter → List (String × Condition)
  | mk conditions _ _ => conditions

def conjunction : Filter → Option (List Filter)
  | mk _ conjunction _ => conjunction

def alternative : Filter → Option (List Filter)
  | mk _ _ alternative => alternative

def empty : Filter := mk [] none none

def isMet (entity : Entity) (condition : String × Condition) : Bool :=
  condition.2.holds (entity.get? condition.1)

mutual

def accepts (entity : Entity) : Filter → Bool
  | mk conditions conjunction alternative =>
      conditions.all (isMet entity) && conjunctionAccepts entity conjunction &&
        alternativeAccepts entity alternative

def conjunctionAccepts (entity : Entity) : Option (List Filter) → Bool
  | none => true
  | some filters => allAccept entity filters

/-- An alternative that is left out asks for nothing, but an empty one is never met. -/
def alternativeAccepts (entity : Entity) : Option (List Filter) → Bool
  | none => true
  | some filters => anyAccepts entity filters

def allAccept (entity : Entity) : List Filter → Bool
  | [] => true
  | filter :: rest => accepts entity filter && allAccept entity rest

def anyAccepts (entity : Entity) : List Filter → Bool
  | [] => false
  | filter :: rest => accepts entity filter || anyAccepts entity rest

end

def acceptsEvery (filter : Filter) (entities : List Entity) : Bool :=
  entities.all fun entity => filter.accepts entity

def whereEquals (filter : Filter) (field : String) (cell : Cell) : Filter :=
  mk (filter.conditions ++ [(field, .equalTo cell)]) filter.conjunction filter.alternative

/-- Adds a test to the first list of tests on a field, or starts such a list at the end. -/
def addTest (field : String) (test : Operator × Operand) :
    List (String × Condition) → List (String × Condition)
  | [] => [(field, .operators [test])]
  | (other, .operators tests) :: rest =>
      if other = field then (other, .operators (tests ++ [test])) :: rest
      else (other, .operators tests) :: addTest field test rest
  | condition :: rest => condition :: addTest field test rest

def whereOperator (filter : Filter) (field : String) (operator : Operator) (operand : Operand) :
    Filter :=
  mk (addTest field (operator, operand) filter.conditions) filter.conjunction filter.alternative

/-- Asks for all of some filters, in place of those asked for before. -/
def withConjunction (filter : Filter) (filters : List Filter) : Filter :=
  mk filter.conditions (some filters) filter.alternative

def withAlternative (filter : Filter) (filters : List Filter) : Filter :=
  mk filter.conditions filter.conjunction (some filters)

end Filter

end GridStore
