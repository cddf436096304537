import GridStore.Filter.Basic

/-!
Equality of filters: the same conditions in the same order, with equal cells in them. Numbers are
compared as numbers, so a filter that mentions `nan` does not even equal itself.
-/

set_option autoImplicit false

namespace GridStore

def listEquals {α : Type} (same : α → α → Bool) : List α → List α → Bool
  | [], [] => true
  | left :: lefts, right :: rights => same left right && listEquals same lefts rights
  | _, _ => false

namespace Operand

def equals : Operand → Operand → Bool
  | .value left, .value right => left.equals right
  | .list left, .list right => listEquals Cell.equals left right
  | .null, .null => true
  | _, _ => false

end Operand

namespace Condition

def equals : Condition → Condition → Bool
  | .equalTo left, .equalTo right => left.equals right
  | .operators left, .operators right =>
      listEquals (fun left right => left.1 == right.1 && left.2.equals right.2) left right
  | .null, .null => true
  | _, _ => false

end Condition

namespace Filter

mutual

def equals : Filter → Filter → Bool
  | mk conditions conjunction alternative, mk conditions' conjunction' alternative' =>
      listEquals (fun left right => left.1 == right.1 && left.2.equals right.2)
          conditions conditions' &&
        groupEquals conjunction conjunction' && groupEquals alternative alternative'

def groupEquals : Option (List Filter) → Option (List Filter) → Bool
  | none, none => true
  | some filters, some filters' => filtersEqual filters filters'
  | _, _ => false

def filtersEqual : List Filter → List Filter → Bool
  | [], [] => true
  | filter :: rest, filter' :: rest' => equals filter filter' && filtersEqual rest rest'
  | _, _ => false

end

end Filter

end GridStore
