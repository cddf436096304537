import GridStore.Filter.Basic
import GridStore.Region

/-!
Repositories: finding, deleting, inserting and sorting the entities of a region.

Searches look at the entities during a scan. Those for one entity only stop the scan at the first
match.
-/

set_option autoImplicit false

namespace GridStore

structure Repository where
  map : ColumnMap
  mapper : EntityMapper

structure Deletion where
  indexes : List Nat
deriving DecidableEq, Repr

namespace Deletion

def deleted (deletion : Deletion) : Bool := !deletion.indexes.isEmpty

def counter (deletion : Deletion) : Nat := deletion.indexes.length

end Deletion

namespace Repository

def collect (filter : Filter) : EntityMapper.Visitor (List Entity) :=
  fun found entity _ _ => (if filter.accepts entity then found ++ [entity] else found, false)

def find (repository : Repository) (filter : Filter) : Action Region (List Entity) := do
  return (← Region.scan repository.mapper (collect filter) []).2

def collectFirst (filter : Filter) : EntityMapper.Visitor (Option Entity) :=
  fun found entity _ _ => if filter.accepts entity then (some entity, true) else (found, false)

def findOne (repository : Repository) (filter : Filter) : Action Region (Option Entity) := do
  return (← Region.scan repository.mapper (collectFirst filter) none).2

def collectIndexes (filter : Filter) (firstOnly : Bool) : EntityMapper.Visitor (List Nat) :=
  fun found entity index _ =>
    if filter.accepts entity then (found ++ [index], firstOnly) else (found, false)

def delete (repository : Repository) (filter : Filter) (firstOnly : Bool) :
    Action Region Deletion := do
  let (_, indexes) ← Region.scan repository.mapper (collectIndexes filter firstOnly) []
  Region.clearEntities indexes
  return ⟨indexes⟩

def findAndDelete (repository : Repository) (filter : Filter) : Action Region Deletion :=
  repository.delete filter false

def deleteOne (repository : Repository) (filter : Filter) : Action Region Deletion :=
  repository.delete filter true

/-- Appends entities in their order; without any nothing happens. -/
def insertMany (repository : Repository) (entities : List Entity) : Action Region Unit :=
  Region.appendEntities repository.mapper entities

def insert (repository : Repository) (entity : Entity) : Action Region Unit :=
  repository.insertMany [entity]

/-- The column of a field, counted from one; the first one without a field or a place for it. -/
def sortColumn (repository : Repository) (field : Option String) : Nat :=
  match field.bind repository.map.get? with
  | some index => Size.next index
  | none => 1

def sort (repository : Repository) (field : Option String) (ascending : Option Bool) :
    Action Region Unit :=
  Region.sort
    { column := some (repository.sortColumn field), ascending := some (ascending.getD false) }

end Repository

end GridStore
