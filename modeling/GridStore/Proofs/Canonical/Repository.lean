import GridStore.Proofs.Canonical.Filter
import GridStore.Proofs.Canonical.Region
import GridStore.Proofs.DataSource.Run

/-!
Repositories on canonical grids. Without transforms a row and its canonical form are mapped to
entities with one canonical form, and back, so that every request in canonical form is answered with
the canonical form of the answer.
-/

set_option autoImplicit false

namespace GridStore

def Transform.IsIdentity {α : Type} (transform : Transform α) : Prop :=
  ∀ value, transform.applyStore value = value ∧ transform.applyLoad value = value

/-- No transform changes anything, and no function that finds a block tells blanks from empty
texts. -/
structure Schema.IsPlain (schema : Schema) : Prop where
  columns : ∀ field column, (field, column) ∈ schema.columns → column.transform.IsIdentity
  entity : schema.transform.IsIdentity
  headers : ∀ address, schema.ranges.headers = some address → address.IsDiscreet
  data : ∀ address, schema.ranges.data = some address → address.IsDiscreet

/-- No strategy changes or stops anything. -/
structure EntityMapper.IsPlain (mapper : EntityMapper) : Prop where
  loadField : ∀ row field index, mapper.rows.loadField row field index = row.getD index .empty
  storeField : ∀ field cell, mapper.rows.storeField field cell = cell
  load : ∀ row index, mapper.load row index = (mapper.rows.toEntity row, false)
  store : ∀ entity index, mapper.store entity index = mapper.rows.toRow entity

namespace Schema

variable {schema : Schema}

theorem cell_strategy_plain (plain : schema.IsPlain) (cell : Cell) (field : String) :
    schema.cellStrategy.load cell field = cell ∧ schema.cellStrategy.store cell field = cell := by
  simp only [cellStrategy]
  cases declared : schema.column? field with
  | none => exact ⟨rfl, rfl⟩
  | some column =>
      obtain ⟨entry, found, rfl⟩ := Option.map_eq_some_iff.1 declared
      exact (plain.columns entry.1 entry.2 (List.mem_of_find?_eq_some found) cell).symm

theorem mapper_plain (plain : schema.IsPlain) (map : ColumnMap) : (schema.mapper map).IsPlain where
  loadField row field index := (cell_strategy_plain plain (row.getD index .empty) field).1
  storeField field cell := (cell_strategy_plain plain cell field).2
  load _ _ := congrArg (·, false) (plain.entity _).2
  store entity _ := congrArg _ (plain.entity entity).1

end Schema

namespace EntityMapper

variable {mapper : EntityMapper}

theorem to_entity_canonical (plain : mapper.IsPlain) (row : Row) :
    mapper.rows.toEntity (Row.canonical row) = (mapper.rows.toEntity row).canonical := by
  rw [RowMapper.toEntity, RowMapper.toEntity, ← Entity.of_list_canonical, Fields.mapValues,
    List.map_map]
  congr 2
  funext entry
  simp only [Function.comp_apply, plain.loadField, Row.get_d_canonical]

theorem place_field_canonical (plain : mapper.IsPlain) (row : Row) (field : String × Cell) :
    mapper.rows.placeField (Row.canonical row) (field.1, field.2.canonical) =
      Row.canonical (mapper.rows.placeField row field) := by
  simp only [RowMapper.placeField, plain.storeField]
  cases mapper.rows.map.get? field.1 with
  | none => rfl
  | some index => exact List.map_set.symm

theorem to_row_canonical (plain : mapper.IsPlain) (entity : Entity) :
    mapper.rows.toRow entity.canonical = Row.canonical (mapper.rows.toRow entity) := by
  have placed : ∀ (fields : List (String × Cell)) (row : Row),
      (Fields.mapValues Cell.canonical fields).foldl mapper.rows.placeField (Row.canonical row) =
        Row.canonical (fields.foldl mapper.rows.placeField row) := by
    intro fields
    induction fields with
    | nil => exact fun _ => rfl
    | cons field rest induction =>
        intro row
        rw [List.foldl_cons, ← induction, ← place_field_canonical plain]
        rfl
  have blanks : Row.canonical (List.replicate mapper.rows.map.width .empty) =
      List.replicate mapper.rows.map.width .empty := List.map_replicate
  rw [RowMapper.toRow, RowMapper.toRow, ← placed, blanks]
  rfl

theorem to_rows_canonical (plain : mapper.IsPlain) (entities : List Entity) :
    mapper.toRows (entities.map Entity.canonical) =
      (mapper.toRows entities).map Row.canonical := by
  apply List.ext_getElem?
  intro index
  simp only [toRows, List.getElem?_mapIdx, List.getElem?_map, plain.store]
  cases entities[index]? with
  | none => rfl
  | some entity => exact congrArg some (to_row_canonical plain entity)

/-- A scan of canonical rows, with a visitor that does the same to what it has made of canonical
entities. -/
theorem scan_canonical {σ : Type} (plain : mapper.IsPlain) {visit visited : Visitor σ}
    {change : σ → σ}
    (agrees : ∀ state entity index stopped,
      visited (change state) entity.canonical index stopped =
        (change (visit state entity index stopped).1, (visit state entity index stopped).2))
    (rows : List Row) (index : Nat) (state : σ) :
    mapper.scanFrom visited index (change state) (rows.map Row.canonical) =
      ((mapper.scanFrom visit index state rows).1.map Entity.canonical,
        change (mapper.scanFrom visit index state rows).2) := by
  induction rows generalizing index state with
  | nil => rfl
  | cons row rest induction =>
      rw [List.map_cons, scanFrom, scanFrom, plain.load, plain.load, to_entity_canonical plain]
      simp only [agrees, induction]
      by_cases stops : (visit state (mapper.rows.toEntity row) index false).2 = true
      · simp [stops]
      · simp [stops]

end EntityMapper

def Request.canonical : Request → Request
  | .find filter => .find filter.canonical
  | .findOne filter => .findOne filter.canonical
  | .findAndDelete filter => .findAndDelete filter.canonical
  | .deleteOne filter => .deleteOne filter.canonical
  | .insert entity => .insert entity.canonical
  | .insertMany entities => .insertMany (entities.map Entity.canonical)
  | .sort field ascending => .sort field ascending

inductive Reply where
  | found (entities : List Entity)
  | first (entity : Option Entity)
  | deleted (deletion : Deletion)
  | done

def Reply.canonical : Reply → Reply
  | .found entities => .found (entities.map Entity.canonical)
  | .first entity => .first (entity.map Entity.canonical)
  | .deleted deletion => .deleted deletion
  | .done => .done

def Request.answer (request : Request) (repository : Repository) : Action Region Reply :=
  match request with
  | .find filter => do return .found (← repository.find filter)
  | .findOne filter => do return .first (← repository.findOne filter)
  | .findAndDelete filter => do return .deleted (← repository.findAndDelete filter)
  | .deleteOne filter => do return .deleted (← repository.deleteOne filter)
  | .insert entity => do
      repository.insert entity
      return .done
  | .insertMany entities => do
      repository.insertMany entities
      return .done
  | .sort field ascending => do
      repository.sort field ascending
      return .done

open GridStore.Action

theorem Region.scan_mirrors {σ : Type} {mapper : EntityMapper} (plain : mapper.IsPlain)
    {visit visited : EntityMapper.Visitor σ} {change : σ → σ}
    (agrees : ∀ state entity index stopped,
      visited (change state) entity.canonical index stopped =
        (change (visit state entity index stopped).1, (visit state entity index stopped).2))
    (state : σ) :
    Mirrors Region.canonical (fun seen => (seen.1.map Entity.canonical, change seen.2))
      (Region.scan mapper visit state) (Region.scan mapper visited (change state)) := by
  unfold Region.scan
  refine mirrors_bind Region.values_mirror fun rows => ?_
  rw [EntityMapper.scan, EntityMapper.scan, EntityMapper.scan_canonical plain agrees]
  exact mirrors_pure _

namespace Repository

variable {repository : Repository}

theorem find_mirrors (plain : repository.mapper.IsPlain) (filter : Filter) :
    Mirrors Region.canonical (List.map Entity.canonical) (repository.find filter)
      (repository.find filter.canonical) := by
  have agrees : ∀ found entity index stopped,
      collect filter.canonical (found.map Entity.canonical) entity.canonical index stopped =
        ((collect filter found entity index stopped).1.map Entity.canonical,
          (collect filter found entity index stopped).2) := by
    intro found entity index stopped
    simp only [collect, Filter.accepts_canonical]
    split
    · rw [List.map_append]
      rfl
    · rfl
  exact mirrors_bind (Region.scan_mirrors plain agrees []) fun seen => mirrors_pure seen.2

theorem find_one_mirrors (plain : repository.mapper.IsPlain) (filter : Filter) :
    Mirrors Region.canonical (Option.map Entity.canonical) (repository.findOne filter)
      (repository.findOne filter.canonical) := by
  have agrees : ∀ found entity index stopped,
      collectFirst filter.canonical (found.map Entity.canonical) entity.canonical index stopped =
        ((collectFirst filter found entity index stopped).1.map Entity.canonical,
          (collectFirst filter found entity index stopped).2) := by
    intro found entity index stopped
    simp only [collectFirst, Filter.accepts_canonical]
    split <;> rfl
  exact mirrors_bind (Region.scan_mirrors plain agrees none) fun seen => mirrors_pure seen.2

theorem delete_mirrors (plain : repository.mapper.IsPlain) (filter : Filter) (firstOnly : Bool) :
    Mirrors Region.canonical id (repository.delete filter firstOnly)
      (repository.delete filter.canonical firstOnly) := by
  have agrees : ∀ found entity index stopped,
      collectIndexes filter.canonical firstOnly (id found) entity.canonical index stopped =
        (id (collectIndexes filter firstOnly found entity index stopped).1,
          (collectIndexes filter firstOnly found entity index stopped).2) := by
    intro found entity index stopped
    simp only [collectIndexes, Filter.accepts_canonical]
    rfl
  refine mirrors_bind (Region.scan_mirrors plain agrees []) fun seen => ?_
  exact mirrors_bind (Region.clear_rows_mirrors _) fun _ => mirrors_pure _

theorem insert_many_mirrors (plain : repository.mapper.IsPlain) (entities : List Entity) :
    Mirrors Region.canonical id (repository.insertMany entities)
      (repository.insertMany (entities.map Entity.canonical)) := by
  unfold insertMany Region.appendEntities
  rw [List.isEmpty_map, EntityMapper.to_rows_canonical plain]
  by_cases nothing : entities.isEmpty = true
  · rw [if_pos nothing, if_pos nothing]
    exact mirrors_pure _
  · rw [if_neg nothing, if_neg nothing]
    exact Region.append_mirrors _

end Repository

theorem Request.answer_mirrors {repository : Repository} (plain : repository.mapper.IsPlain)
    (request : Request) : Mirrors Region.canonical Reply.canonical (request.answer repository)
      (request.canonical.answer repository) := by
  cases request with
  | find filter =>
      exact mirrors_bind (Repository.find_mirrors plain filter) fun found => mirrors_pure _
  | findOne filter =>
      exact mirrors_bind (Repository.find_one_mirrors plain filter) fun found => mirrors_pure _
  | findAndDelete filter =>
      exact mirrors_bind (Repository.delete_mirrors plain filter false) fun found => mirrors_pure _
  | deleteOne filter =>
      exact mirrors_bind (Repository.delete_mirrors plain filter true) fun found => mirrors_pure _
  | insert entity =>
      exact mirrors_bind (Repository.insert_many_mirrors plain [entity]) fun _ => mirrors_pure _
  | insertMany entities =>
      exact mirrors_bind (Repository.insert_many_mirrors plain entities) fun _ => mirrors_pure _
  | sort field ascending =>
      exact mirrors_bind (Region.sort_mirrors _) fun _ => mirrors_pure _

end GridStore
