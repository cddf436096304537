import GridStore.Cell
import GridStore.Fields

/-!
Entities: named fields holding cells, in the order of their names. An entity with the same fields
and cells as another is the same entity.
-/

set_option autoImplicit false

namespace GridStore

structure Entity where
  fields : List (String × Cell)
  sorted : Fields.Sorted fields

namespace Entity

def empty : Entity := ⟨[], List.Pairwise.nil⟩

def get? (entity : Entity) (field : String) : Option Cell := Fields.get? field entity.fields

def insert (entity : Entity) (field : String) (cell : Cell) : Entity :=
  ⟨Fields.insert field cell entity.fields, Fields.sorted_insert entity.sorted⟩

def erase (entity : Entity) (field : String) : Entity :=
  ⟨Fields.erase field entity.fields, Fields.sorted_erase entity.sorted⟩

/-- The entity with all fields of a list; of several with one name the last one counts. -/
def ofList (fields : List (String × Cell)) : Entity :=
  ⟨Fields.ofList fields, Fields.sorted_ofList fields⟩

def equals (left right : Entity) : Bool :=
  left.fields.length == right.fields.length &&
    (left.fields.zip right.fields).all fun (first, second) =>
      first.1 == second.1 && first.2.equals second.2

end Entity

end GridStore
