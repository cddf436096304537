import GridStore.ColumnMap
import GridStore.Schema.Basic

/-!
Mapping rows to entities and back.

Cell strategies convert single values and entity strategies whole entities, each in the order of
their list. A scan maps rows in order and shows every entity to a visitor; it ends before the
first row on which a strategy or the visitor asks it to stop.
-/

set_option autoImplicit false

namespace GridStore

structure CellStrategy where
  load : Cell → String → Cell := fun cell _ => cell
  store : Cell → String → Cell := fun cell _ => cell

/-- Converts an entity, given its position among the rows. When loading, a strategy sees whether
the scan has been stopped already and says whether it stops it. Strategies and visitors that
replace the flag of a stopped scan by a fresh one, and so let it go on, are left out. -/
structure EntityStrategy where
  load : Entity → Nat → Bool → Entity × Bool := fun entity _ _ => (entity, false)
  store : Entity → Nat → Entity := fun entity _ => entity

structure RowMapper where
  map : ColumnMap
  strategies : List CellStrategy

namespace RowMapper

/-- The value of a field in a row; cells past the end of the row are blank. -/
def loadField (mapper : RowMapper) (row : Row) (field : String) (index : Nat) : Cell :=
  mapper.strategies.foldl (fun cell strategy => strategy.load cell field) (row.getD index .empty)

def toEntity (mapper : RowMapper) (row : Row) : Entity :=
  .ofList (mapper.map.entries.map fun (field, index) => (field, mapper.loadField row field index))

def storeField (mapper : RowMapper) (field : String) (cell : Cell) : Cell :=
  mapper.strategies.foldl (fun cell strategy => strategy.store cell field) cell

/-- Puts a field into its place in a row; fields without a place are dropped. -/
def placeField (mapper : RowMapper) (row : Row) (field : String × Cell) : Row :=
  match mapper.map.get? field.1 with
  | some index => row.set index (mapper.storeField field.1 field.2)
  | none => row

/-- The row of an entity, just wide enough for all fields of the map. Where two fields share a
place, the one with the greater name is kept. -/
def toRow (mapper : RowMapper) (entity : Entity) : Row :=
  entity.fields.foldl mapper.placeField (List.replicate mapper.map.width .empty)

end RowMapper

structure EntityMapper where
  rows : RowMapper
  strategies : List EntityStrategy

namespace EntityMapper

def load (mapper : EntityMapper) (row : Row) (index : Nat) : Entity × Bool :=
  mapper.strategies.foldl
    (fun (entity, stopped) strategy =>
      let (entity, stops) := strategy.load entity index stopped
      (entity, stopped || stops))
    (mapper.rows.toEntity row, false)

/-- Sees every entity with its position and whether a strategy stopped the scan there, and may
stop it too. -/
abbrev Visitor (σ : Type) := σ → Entity → Nat → Bool → σ × Bool

def Visitor.idle : Visitor Unit := fun _ _ _ _ => ((), false)

def scanFrom {σ : Type} (mapper : EntityMapper) (visit : Visitor σ) (index : Nat) (state : σ) :
    List Row → List Entity × σ
  | [] => ([], state)
  | row :: rest =>
      let (entity, stopped) := mapper.load row index
      let (state, stops) := visit state entity index stopped
      if stopped || stops then ([], state)
      else
        let (entities, state) := mapper.scanFrom visit (index + 1) state rest
        (entity :: entities, state)

def scan {σ : Type} (mapper : EntityMapper) (visit : Visitor σ) (state : σ) (rows : List Row) :
    List Entity × σ :=
  mapper.scanFrom visit 0 state rows

def store (mapper : EntityMapper) (entity : Entity) (index : Nat) : Row :=
  mapper.rows.toRow (mapper.strategies.foldl (fun entity strategy => strategy.store entity index)
    entity)

def toRows (mapper : EntityMapper) (entities : List Entity) : List Row :=
  entities.mapIdx fun index entity => mapper.store entity index

end EntityMapper

namespace Schema

def cellStrategy (schema : Schema) : CellStrategy where
  load cell field :=
    match schema.column? field with
    | some column => column.transform.applyLoad cell
    | none => cell
  store cell field :=
    match schema.column? field with
    | some column => column.transform.applyStore cell
    | none => cell

def entityStrategy (schema : Schema) : EntityStrategy where
  load entity _ _ := (schema.transform.applyLoad entity, false)
  store entity _ := schema.transform.applyStore entity

def mapper (schema : Schema) (map : ColumnMap) : EntityMapper where
  rows := { map, strategies := [schema.cellStrategy] }
  strategies := [schema.entityStrategy]

end Schema

end GridStore
