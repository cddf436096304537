import GridStore.Address.Basic
import GridStore.Column
import GridStore.Entity

/-!
Schemas: what an entity is made of, which sheet it is kept on, and where its headers and its data
lie on that sheet. Options are what a caller writes down; a schema is what is left after checking
that nothing required is missing.
-/

set_option autoImplicit false

namespace GridStore

structure RangeOptions where
  headers : Option Address := none
  data : Option Address := none

structure SchemaOptions where
  selector : Option Selector := none
  ranges : RangeOptions := {}
  columns : List (String × ColumnOptions) := []
  transform : Transform Entity := {}

structure Schema where
  selector : Selector
  ranges : RangeOptions
  columns : List (String × Column)
  transform : Transform Entity

/-- The column of a field; of several with one name the first one counts. -/
def Schema.column? (schema : Schema) (field : String) : Option Column :=
  (schema.columns.find? fun entry => entry.1 == field).map Prod.snd

namespace SchemaOptions

def ofSelector (selector : Selector) : SchemaOptions := { selector := some selector }

def addColumn (options : SchemaOptions) (field : String) (column : ColumnOptions) : SchemaOptions :=
  { options with columns := options.columns ++ [(field, column)] }

/-- The schema that the options describe. A missing selector of the entity is reported before
missing selectors of its columns. -/
def validate (options : SchemaOptions) : Except SchemaError Schema := do
  match options.selector with
  | none => throw (.missingOption "EntitySchema.selector")
  | some selector =>
      let columns ← options.columns.mapM fun (field, column) => do
        return (field, ← column.declare)
      return { selector, ranges := options.ranges, columns, transform := options.transform }

end SchemaOptions

structure SourceOptions where
  id : Option String := none
  entities : List SchemaOptions := []

end GridStore
