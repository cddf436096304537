import GridStore.Error
import GridStore.Filter.Basic
import GridStore.Json.Value

/-!
Filters written as JSON objects.

A member is a condition on the field of its name, except that an array under `$and` or `$or` holds
filters. An object as value lists operators, of which unknown ones are skipped; any other array
asks for nothing, and `null` is never met.
-/

set_option autoImplicit false

namespace GridStore

/-- The right-hand side of an operator; `null` items of an array are left out. -/
def Operand.ofJson : Json → Operand
  | .null => .null
  | .array items => .list ((items.filter fun item => !item.isNull).map Cell.ofJson)
  | other => .value (.ofJson other)

namespace Condition

def testsOfMembers (members : List (String × Json)) : List (Operator × Operand) :=
  members.filterMap fun (key, operand) =>
    (Operator.ofKey? key).map fun operator => (operator, .ofJson operand)

def ofJson : Json → Condition
  | .object members => .operators (testsOfMembers members)
  | .array _ => .operators []
  | .null => .null
  | scalar => .equalTo (.ofJson scalar)

end Condition

namespace Filter

def addCondition (filter : Filter) (field : String) (condition : Condition) : Filter :=
  mk (filter.conditions ++ [(field, condition)]) filter.conjunction filter.alternative

mutual

def ofJson : Json → Except FilterError Filter
  | .object members => ofMembers empty members
  | other => .error (.notAnObject other.compact)

def ofMembers (filter : Filter) : List (String × Json) → Except FilterError Filter
  | [] => .ok filter
  | (key, .array items) :: rest =>
      if key = "$or" then do
        ofMembers (filter.withAlternative (← ofItems items)) rest
      else if key = "$and" then do
        ofMembers (filter.withConjunction (← ofItems items)) rest
      else ofMembers (filter.addCondition key (.ofJson (.array items))) rest
  | (key, value) :: rest => ofMembers (filter.addCondition key (.ofJson value)) rest

def ofItems : List Json → Except FilterError (List Filter)
  | [] => .ok []
  | item :: rest => do
      let filter ← ofJson item
      let filters ← ofItems rest
      return filter :: filters

end

def ofText (text : String) : Except FilterError Filter :=
  match Json.ofText? text with
  | some value => ofJson value
  | none => .error .malformed

end Filter

end GridStore
