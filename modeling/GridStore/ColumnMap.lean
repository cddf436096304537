import GridStore.Column

/-!
Column maps: the position in a row of every field of an entity, in the order of declaration.
-/

set_option autoImplicit false

namespace GridStore

structure ColumnMap where
  entries : List (String × Nat)
deriving DecidableEq, Repr

namespace ColumnMap

/-- The position of a field; of several entries with one name the first one counts. -/
def get? (map : ColumnMap) (field : String) : Option Nat :=
  (map.entries.find? fun entry => entry.1 == field).map Prod.snd

def maxIndex? (map : ColumnMap) : Option Nat := (map.entries.map Prod.snd).max?

def width (map : ColumnMap) : Nat :=
  match map.maxIndex? with
  | some index => Size.next index
  | none => 0

def locate (headers : List String) : ColumnSelector → Except Error Nat
  | .position index => .ok index
  | .header text =>
      match headers.findIdx? (· == text) with
      | some index => .ok index
      | none => .error (.headerNotFound text)

def build (columns : List (String × Column)) (headers : List String) : Except Error ColumnMap := do
  let entries ← columns.mapM fun (field, column) => do
    return (field, ← locate headers column.selector)
  return ⟨entries⟩

end ColumnMap

end GridStore
