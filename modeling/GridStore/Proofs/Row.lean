import GridStore.Mapper

/-!
Rows against entities, field by field. A position of a row holds the last field of an entity that
is mapped there and is blank without one, and a name in an entity holds the cell of the last
position that is listed under it. So a field with a name and a position of its own comes back from
a row, whatever becomes of the other fields.
-/

set_option autoImplicit false

namespace GridStore

section Named

variable {α : Type} {entries : List (String × α)} {name : String} {value : α}

theorem mem_of_named
    (found : (entries.find? fun entry => entry.1 == name).map Prod.snd = some value) :
    (name, value) ∈ entries := by
  obtain ⟨⟨other, held⟩, listed, rfl⟩ := Option.map_eq_some_iff.1 found
  obtain rfl : other = name := by simpa using List.find?_some listed
  exact List.mem_of_find?_eq_some listed

theorem named_of_mem (member : (name, value) ∈ entries) :
    ∃ first, (entries.find? fun entry => entry.1 == name).map Prod.snd = some first := by
  have some : (entries.find? fun entry => entry.1 == name).isSome = true :=
    List.find?_isSome.2 ⟨(name, value), member, beq_self_eq_true name⟩
  obtain ⟨entry, found⟩ := Option.isSome_iff_exists.1 some
  exact ⟨entry.2, by rw [found]; rfl⟩

end Named

namespace ColumnMap

/-- The position that a field is loaded from; of several entries with one name the last one
counts. -/
def loadsFrom? (map : ColumnMap) (field : String) : Option Nat :=
  (map.entries.reverse.find? fun entry => entry.1 == field).map Prod.snd

/-- A field that shares neither its name nor its position with another one. -/
structure Owns (map : ColumnMap) (field : String) (index : Nat) : Prop where
  listed : (field, index) ∈ map.entries
  alone : ∀ entry ∈ map.entries, entry.1 = field ∨ entry.2 = index → entry = (field, index)

variable {map : ColumnMap} {field other : String} {index place : Nat}

theorem mem_of_get (found : map.get? field = some index) : (field, index) ∈ map.entries :=
  mem_of_named found

theorem Owns.get (owns : map.Owns field index) : map.get? field = some index := by
  obtain ⟨first, found⟩ := named_of_mem owns.listed
  have same := owns.alone (field, first) (mem_of_get found) (Or.inl rfl)
  rw [get?, found, (Prod.mk.inj same).2]

/-- Nothing else is mapped to the position. -/
theorem Owns.get_eq_some_iff (owns : map.Owns field index) :
    map.get? other = some index ↔ other = field := by
  constructor
  · intro found
    exact (Prod.mk.inj (owns.alone (other, index) (mem_of_get found) (Or.inr rfl))).1
  · rintro rfl
    exact owns.get

/-- No position is the largest size, behind which a row would have to reach. -/
def Fits (map : ColumnMap) : Prop := ∀ entry ∈ map.entries, entry.2 < Size.largest

theorem fits_iff_of_max {largest : Nat} (found : map.maxIndex? = some largest) :
    map.Fits ↔ largest < Size.largest := by
  obtain ⟨listed, least⟩ := List.max?_eq_some_iff.1 found
  constructor
  · intro fits
    obtain ⟨entry, member, rfl⟩ := List.mem_map.1 listed
    exact fits entry member
  · intro below entry member
    exact Nat.lt_of_le_of_lt (least _ (List.mem_map_of_mem member)) below

theorem width_of_max {largest : Nat} (found : map.maxIndex? = some largest) :
    map.width = Size.next largest := by
  rw [width, found]

theorem index_lt_width (fits : map.Fits) {entry : String × Nat} (member : entry ∈ map.entries) :
    entry.2 < map.width := by
  have listed : entry.2 ∈ map.entries.map Prod.snd := List.mem_map_of_mem member
  cases largest : map.maxIndex? with
  | none =>
      rw [maxIndex?, List.max?_eq_none_iff] at largest
      rw [largest] at listed
      cases listed
  | some index =>
      rw [width_of_max largest, Size.next_of_lt ((fits_iff_of_max largest).1 fits)]
      exact Nat.lt_succ_of_le ((List.max?_eq_some_iff.1 largest).2 _ listed)

/-- A row is empty if its map is, or if the largest position has none after it. -/
theorem width_pos_iff : 0 < map.width ↔ map.entries ≠ [] ∧ map.Fits := by
  cases largest : map.maxIndex? with
  | none =>
      rw [maxIndex?, List.max?_eq_none_iff, List.map_eq_nil_iff] at largest
      rw [width, maxIndex?, largest]
      simp
  | some index =>
      have some : map.entries ≠ [] := by
        intro none
        rw [maxIndex?, none] at largest
        cases largest
      rw [width_of_max largest, fits_iff_of_max largest, Size.next_pos_iff]
      exact ⟨fun below => ⟨some, below⟩, And.right⟩

end ColumnMap

namespace Entity

variable {entity : Entity} {field : String} {cell : Cell}

theorem get_eq_some_iff : entity.get? field = some cell ↔ (field, cell) ∈ entity.fields :=
  Fields.get?_eq_some_iff entity.sorted

theorem get_of_list (fields : List (String × Cell)) (field : String) :
    (ofList fields).get? field =
      (fields.reverse.find? fun entry => entry.1 == field).map Prod.snd :=
  Fields.get?_ofList field fields

end Entity

namespace RowMapper

variable (mapper : RowMapper)

theorem length_place_field (row : Row) (field : String × Cell) :
    (mapper.placeField row field).length = row.length := by
  rw [placeField]
  split
  · exact List.length_set
  · rfl

theorem length_placed (fields : List (String × Cell)) (row : Row) :
    (fields.foldl mapper.placeField row).length = row.length := by
  induction fields generalizing row with
  | nil => rfl
  | cons field rest induction => rw [List.foldl_cons, induction, length_place_field]

theorem length_to_row (entity : Entity) : (mapper.toRow entity).length = mapper.map.width := by
  rw [toRow, length_placed, List.length_replicate]

theorem place_field_cell {row : Row} {index : Nat} (inside : index < row.length)
    (field : String × Cell) :
    (mapper.placeField row field)[index]? =
      if mapper.map.get? field.1 = some index then some (mapper.storeField field.1 field.2)
      else row[index]? := by
  rw [placeField]
  cases mapped : mapper.map.get? field.1 with
  | none => simp
  | some place =>
      rw [List.getElem?_set]
      by_cases same : place = index
      · subst same
        simp [inside]
      · simp [same]

/-- Of the fields mapped to a position the last one is there in the end. -/
theorem placed_cell (fields : List (String × Cell)) {row : Row} {index : Nat}
    (inside : index < row.length) :
    (fields.foldl mapper.placeField row)[index]? =
      ((fields.reverse.find? fun field => mapper.map.get? field.1 == some index).map
        fun field => mapper.storeField field.1 field.2).or row[index]? := by
  induction fields generalizing row with
  | nil => rfl
  | cons field rest induction =>
      have still : index < (mapper.placeField row field).length := by
        rwa [length_place_field]
      rw [List.foldl_cons, induction still, place_field_cell mapper inside, List.reverse_cons,
        List.find?_append]
      by_cases mapped : mapper.map.get? field.1 = some index
      · cases rest.reverse.find? fun field => mapper.map.get? field.1 == some index <;>
          simp [mapped]
      · cases rest.reverse.find? fun field => mapper.map.get? field.1 == some index <;>
          simp [mapped]

def placeField? (row : Row) (field : String × Cell) : Option Row :=
  match mapper.map.get? field.1 with
  | some index =>
      if index < row.length then some (row.set index (mapper.storeField field.1 field.2)) else none
  | none => some row

/-- The row of an entity, if it reaches to the places of all its fields. -/
def toRow? (entity : Entity) : Option Row :=
  entity.fields.foldlM mapper.placeField? (List.replicate mapper.map.width .empty)

theorem place_field_some_iff {row placed : Row} {field : String × Cell} :
    mapper.placeField? row field = some placed ↔
      (∀ index, mapper.map.get? field.1 = some index → index < row.length) ∧
        placed = mapper.placeField row field := by
  rw [placeField?, placeField]
  cases mapper.map.get? field.1 with
  | none => simp [eq_comm]
  | some index =>
      by_cases inside : index < row.length
      · simp [inside, eq_comm]
      · simp [inside]

theorem placed_some_iff {fields : List (String × Cell)} {row placed : Row} :
    fields.foldlM mapper.placeField? row = some placed ↔
      (∀ field ∈ fields, ∀ index, mapper.map.get? field.1 = some index → index < row.length) ∧
        placed = fields.foldl mapper.placeField row := by
  induction fields generalizing row with
  | nil => simp [eq_comm]
  | cons field rest induction =>
      rw [List.foldlM_cons, List.foldl_cons, List.forall_mem_cons]
      constructor
      · intro ran
        obtain ⟨middle, here, later⟩ := Option.bind_eq_some_iff.1 ran
        obtain ⟨first, rfl⟩ := mapper.place_field_some_iff.1 here
        obtain ⟨others, same⟩ := induction.1 later
        rw [length_place_field] at others
        exact ⟨⟨first, others⟩, same⟩
      · rintro ⟨⟨first, others⟩, same⟩
        refine Option.bind_eq_some_iff.2 ⟨_, mapper.place_field_some_iff.2 ⟨first, rfl⟩, ?_⟩
        rw [induction, length_place_field]
        exact ⟨others, same⟩

/-- Behind the largest size there is no place, so that the row of an entity cannot be made if a
field is mapped there, unless the entity has none of the fields of the map. -/
theorem to_row_some_iff {entity : Entity} {row : Row} :
    mapper.toRow? entity = some row ↔
      (mapper.map.Fits ∨
        ∀ field cell, entity.get? field = some cell → mapper.map.get? field = none) ∧
      row = mapper.toRow entity := by
  rw [toRow?, placed_some_iff, List.length_replicate, toRow]
  refine and_congr_left fun _ => ⟨fun inside => ?_, ?_⟩
  · by_cases fits : mapper.map.Fits
    · exact Or.inl fits
    · refine Or.inr fun field cell held => ?_
      cases mapped : mapper.map.get? field with
      | none => rfl
      | some index =>
          have reached := inside (field, cell) (Entity.get_eq_some_iff.1 held) index mapped
          have wide := Nat.lt_of_le_of_lt (Nat.zero_le index) reached
          exact absurd (ColumnMap.width_pos_iff.1 wide).2 fits
  · rintro (fits | unmapped) field member index mapped
    · exact ColumnMap.index_lt_width fits (ColumnMap.mem_of_get mapped)
    · rw [unmapped field.1 field.2 (Entity.get_eq_some_iff.2 member)] at mapped
      cases mapped

section Mapped

variable {entity : Entity} {field : String} {cell : Cell} {index : Nat}

theorem fits_of_made {row : Row} (made : mapper.toRow? entity = some row)
    (held : entity.get? field = some cell) (mapped : mapper.map.get? field = some index) :
    mapper.map.Fits := by
  refine (mapper.to_row_some_iff.1 made).1.resolve_right fun unmapped => ?_
  rw [unmapped field cell held] at mapped
  cases mapped

theorem made_iff_fits (held : entity.get? field = some cell)
    (mapped : mapper.map.get? field = some index) :
    (mapper.toRow? entity).isSome = true ↔ mapper.map.Fits := by
  rw [Option.isSome_iff_exists]
  constructor
  · rintro ⟨row, made⟩
    exact mapper.fits_of_made made held mapped
  · intro fits
    exact ⟨_, mapper.to_row_some_iff.2 ⟨Or.inl fits, rfl⟩⟩

end Mapped

theorem to_row_cell (entity : Entity) {index : Nat} (inside : index < mapper.map.width) :
    (mapper.toRow entity)[index]? =
      some (((entity.fields.reverse.find? fun field =>
        mapper.map.get? field.1 == some index).map
          fun field => mapper.storeField field.1 field.2).getD .empty) := by
  have blank : (List.replicate mapper.map.width Cell.empty)[index]? = some .empty := by
    rw [List.getElem?_replicate, if_pos inside]
  rw [toRow, placed_cell mapper entity.fields (by rwa [List.length_replicate]), blank]
  cases entity.fields.reverse.find? fun field => mapper.map.get? field.1 == some index <;> rfl

/-- The cell of a field whose position no other field of the entity is mapped to. -/
theorem to_row_alone (fits : mapper.map.Fits) {entity : Entity} {field : String} {cell : Cell}
    {index : Nat} (mapped : mapper.map.get? field = some index) (held : entity.get? field = some cell)
    (alone : ∀ other value, entity.get? other = some value →
      mapper.map.get? other = some index → other = field) :
    (mapper.toRow entity)[index]? = some (mapper.storeField field cell) := by
  have inside : index < mapper.map.width :=
    ColumnMap.index_lt_width fits (ColumnMap.mem_of_get mapped)
  have listed : (entity.fields.reverse.find? fun field =>
      mapper.map.get? field.1 == some index).isSome = true := by
    refine List.find?_isSome.2 ⟨(field, cell), ?_, by simp [mapped]⟩
    exact List.mem_reverse.2 (Entity.get_eq_some_iff.1 held)
  obtain ⟨⟨other, value⟩, found⟩ := Option.isSome_iff_exists.1 listed
  have other_held : entity.get? other = some value :=
    Entity.get_eq_some_iff.2 (List.mem_reverse.1 (List.mem_of_find?_eq_some found))
  obtain rfl : other = field :=
    alone other value other_held (by simpa using List.find?_some found)
  obtain rfl : value = cell := Option.some.inj (other_held.symm.trans held)
  rw [to_row_cell mapper entity inside, found]
  rfl

def rawCell? (row : Row) (field : String) : Option Cell :=
  (mapper.map.loadsFrom? field).map fun index => row.getD index .empty

theorem raw_cell {field : String} {index : Nat}
    (loads : mapper.map.loadsFrom? field = some index) (row : Row) :
    mapper.rawCell? row field = some (row.getD index .empty) := by
  rw [rawCell?, loads, Option.map_some]

/-- A field of a loaded entity is the cell of the position that it is loaded from. -/
theorem to_entity_field (row : Row) (field : String) :
    (mapper.toEntity row).get? field =
      (mapper.map.loadsFrom? field).map (mapper.loadField row field) := by
  rw [toEntity, Entity.get_of_list, ← List.map_reverse, List.find?_map, ColumnMap.loadsFrom?]
  have same : (fun entry : String × Cell => entry.1 == field) ∘
      (fun entry : String × Nat => (entry.1, mapper.loadField row entry.1 entry.2)) =
        fun entry => entry.1 == field := rfl
  rw [same]
  cases found : mapper.map.entries.reverse.find? fun entry => entry.1 == field with
  | none => rfl
  | some entry =>
      obtain ⟨name, index⟩ := entry
      obtain rfl : name = field := by simpa using List.find?_some found
      rfl

end RowMapper

namespace Schema

def transformOf (schema : Schema) (field : String) : Transform Cell :=
  match schema.column? field with
  | some column => column.transform
  | none => {}

variable (schema : Schema) (map : ColumnMap)

theorem load_field (row : Row) (field : String) (index : Nat) :
    (schema.mapper map).rows.loadField row field index =
      (schema.transformOf field).applyLoad (row.getD index .empty) := by
  show schema.cellStrategy.load (row.getD index .empty) field = _
  simp only [cellStrategy, transformOf]
  cases schema.column? field <;> rfl

theorem store_field (field : String) (cell : Cell) :
    (schema.mapper map).rows.storeField field cell =
      (schema.transformOf field).applyStore cell := by
  show schema.cellStrategy.store cell field = _
  simp only [cellStrategy, transformOf]
  cases schema.column? field <;> rfl

theorem entity_field (row : Row) (field : String) :
    ((schema.mapper map).rows.toEntity row).get? field =
      ((schema.mapper map).rows.rawCell? row field).map (schema.transformOf field).applyLoad := by
  rw [RowMapper.to_entity_field, RowMapper.rawCell?, Option.map_map]
  congr 1
  funext index
  exact schema.load_field map row field index

end Schema

end GridStore
