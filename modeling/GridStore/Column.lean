import GridStore.Cell
import GridStore.Error

/-!
Columns of an entity: where a field lives in a row, and how its value is converted on the way in
and out.
-/

set_option autoImplicit false

namespace GridStore

structure Transform (α : Type) where
  store : Option (α → α) := none
  load : Option (α → α) := none

namespace Transform

variable {α : Type}

def applyStore (transform : Transform α) (value : α) : α :=
  match transform.store with
  | some convert => convert value
  | none => value

def applyLoad (transform : Transform α) (value : α) : α :=
  match transform.load with
  | some convert => convert value
  | none => value

def record (transform : Transform α) : String :=
  "Transform \x7b to: " ++ toString transform.store.isSome ++ ", from: " ++
    toString transform.load.isSome ++ " \x7d"

end Transform

inductive ColumnOptions where
  | position (index : Nat)
  | header (text : String)
  | full (selector : Option ColumnSelector) (isPrimary : Bool) (transform : Transform Cell)

/-- A complete column. That it is primary is for information only. -/
structure Column where
  selector : ColumnSelector
  isPrimary : Bool
  transform : Transform Cell

namespace ColumnOptions

def selector? : ColumnOptions → Option ColumnSelector
  | .position index => some (.position index)
  | .header text => some (.header text)
  | .full selector _ _ => selector

def isPrimary : ColumnOptions → Bool
  | .full _ isPrimary _ => isPrimary
  | _ => false

def transform : ColumnOptions → Transform Cell
  | .full _ _ transform => transform
  | _ => {}

def asPrimary (options : ColumnOptions) : ColumnOptions :=
  .full options.selector? true options.transform

def withTransform (options : ColumnOptions) (transform : Transform Cell) : ColumnOptions :=
  .full options.selector? options.isPrimary transform

def declare (options : ColumnOptions) : Except SchemaError Column :=
  match options.selector? with
  | some selector => .ok ⟨selector, options.isPrimary, options.transform⟩
  | none => .error .columnWithoutSelector

end ColumnOptions

end GridStore
