import GridStore.Proofs.Beside
import GridStore.Proofs.Row
import GridStore.Proofs.Sort
import GridStore.Repository

/-!
The column of a field, as a schema declares it. Writing, sorting and the conversions go by the first
declaration of a field, loading by the position of the last one, so that all of them use one column
exactly if the two declarations come to the same position.
-/

set_option autoImplicit false

namespace GridStore

section Named

variable {α β : Type} {items : List (String × α)} {results : List (String × β)} {name : String}
  {value : α}

theorem named_beside (related : α → β → Prop)
    (beside : List.Forall₂ (fun item result => result.1 = item.1 ∧ related item.2 result.2) items
      results)
    (found : (items.find? fun item => item.1 == name).map Prod.snd = some value) :
    ∃ result, (results.find? fun item => item.1 == name).map Prod.snd = some result ∧
      related value result := by
  induction beside with
  | nil => cases found
  | @cons item result rest others head tail induction =>
      obtain ⟨same, holds⟩ := head
      by_cases here : item.1 = name
      · have there : result.1 = name := same.trans here
        simp only [List.find?_cons, here, beq_self_eq_true, Option.map_some,
          Option.some.injEq] at found
        simp only [List.find?_cons, there, beq_self_eq_true, Option.map_some, Option.some.injEq,
          exists_eq_left']
        rwa [← found]
      · have apart : result.1 ≠ name := fun there => here (same.symm.trans there)
        simp only [List.find?_cons, beq_false_of_ne here] at found
        simp only [List.find?_cons, beq_false_of_ne apart]
        exact induction found

theorem named_reversed (related : α → β → Prop)
    (beside : List.Forall₂ (fun item result => result.1 = item.1 ∧ related item.2 result.2) items
      results)
    (found : (items.reverse.find? fun item => item.1 == name).map Prod.snd = some value) :
    ∃ result, (results.reverse.find? fun item => item.1 == name).map Prod.snd = some result ∧
      related value result :=
  named_beside related (List.rel_reverse beside) found

theorem named_once (once : (items.map Prod.fst).count name = 1) :
    items.reverse.find? (fun item => item.1 == name) =
      items.find? fun item => item.1 == name := by
  rw [List.count_eq_length_filter, List.filter_map, List.length_map] at once
  obtain ⟨item, only⟩ := List.length_eq_one_iff.1 once
  have alone : (items.filter fun item => item.1 == name) = [item] := only
  rw [← List.head?_filter, ← List.head?_filter, List.filter_reverse, alone]
  rfl

end Named

namespace SchemaOptions

variable {options : SchemaOptions} {schema : Schema}

/-- The columns that the first and the last declaration of a field come to. -/
structure Declares (options : SchemaOptions) (field : String) (first last : Column) : Prop where
  first : ∃ written, (options.columns.find? fun entry => entry.1 == field).map Prod.snd =
    some written ∧ written.declare = .ok first
  last : ∃ written, (options.columns.reverse.find? fun entry => entry.1 == field).map Prod.snd =
    some written ∧ written.declare = .ok last

theorem columns_of_validate (validated : options.validate = .ok schema) :
    List.Forall₂ (fun written column => column.1 = written.1 ∧
      written.2.declare = .ok column.2) options.columns schema.columns := by
  rw [validate] at validated
  cases selected : options.selector with
  | none =>
      rw [selected] at validated
      cases validated
  | some selector =>
      simp only [selected] at validated
      obtain ⟨columns, listed, made⟩ := except_bind_ok_iff.1 validated
      cases made
      refine (beside_of_map_m listed).imp fun written column stepped => ?_
      obtain ⟨declared, declares, named⟩ := except_bind_ok_iff.1 stepped
      cases named
      exact ⟨rfl, declares⟩

end SchemaOptions

theorem ColumnMap.entries_of_build {columns : List (String × Column)} {headers : List String}
    {map : ColumnMap} (built : build columns headers = .ok map) :
    List.Forall₂ (fun column entry => entry.1 = column.1 ∧
      locate headers column.2.selector = .ok entry.2) columns map.entries := by
  obtain ⟨entries, listed, made⟩ := except_bind_ok_iff.1 built
  cases made
  refine (beside_of_map_m listed).imp fun column entry stepped => ?_
  obtain ⟨index, located, named⟩ := except_bind_ok_iff.1 stepped
  cases named
  exact ⟨rfl, located⟩

theorem RowMapper.to_row_erase (mapper : RowMapper) (entity : Entity) {field : String}
    {index other : Nat} (mapped : mapper.map.get? field = some index) (apart : other ≠ index) :
    (mapper.toRow (entity.erase field))[other]? = (mapper.toRow entity)[other]? := by
  by_cases inside : other < mapper.map.width
  · have same : ((Fields.erase field entity.fields).reverse.find? fun entry =>
        mapper.map.get? entry.1 == some other) =
        entity.fields.reverse.find? fun entry => mapper.map.get? entry.1 == some other := by
      rw [Fields.erase, ← List.filter_reverse, List.find?_filter]
      congr 1
      funext entry
      by_cases own : entry.1 = field
      · simp [own, mapped, Ne.symm apart]
      · simp [own, Bool.beq_eq_decide_eq]
    rw [to_row_cell mapper entity inside, to_row_cell mapper (entity.erase field) inside,
      Entity.erase, same]
  · have beyond : ∀ entity, (mapper.toRow entity)[other]? = none := by
      intro entity
      rw [List.getElem?_eq_none_iff, length_to_row]
      exact Nat.le_of_not_lt inside
    rw [beyond, beyond]

theorem exists_row_with {first second : Nat} (apart : first ≠ second) (left right : Cell) :
    ∃ row : Row, row.getD first .empty = left ∧ row.getD second .empty = right := by
  refine ⟨((List.replicate (max first second + 1) Cell.empty).set first left).set second right,
    ?_, ?_⟩
  · rw [List.getD_eq_getElem?_getD, List.getElem?_set_ne (Ne.symm apart), List.getElem?_set_self]
    · rfl
    · rw [List.length_replicate]
      omega
  · rw [List.getD_eq_getElem?_getD, List.getElem?_set_self]
    · rfl
    · rw [List.length_set, List.length_replicate]
      omega

theorem Repository.sort_by_mapped {repository : Repository} {field : String} {index : Nat}
    (mapped : repository.map.get? field = some index) (ascending : Option Bool) :
    repository.sort (some field) ascending =
      Region.sort { column := some (Size.next index), ascending := some (ascending.getD false) } := by
  rw [sort, sortColumn, Option.bind_some, mapped]

namespace Schema

/-- What a repository does with a declared field: it writes and sorts by one position of rows, with
the conversions declared there, and it loads from another. While some field is at the largest size
nothing is written, and sorting by that field is sorting by the first column instead. -/
structure FieldColumns (options : SchemaOptions) (schema : Schema) (headers : List String)
    (map : ColumnMap) (field : String) (first last : Column) (index source : Nat) : Prop where
  declares : options.Declares field first last
  located : ColumnMap.locate headers first.selector = .ok index
  locatedLast : ColumnMap.locate headers last.selector = .ok source
  mapped : map.get? field = some index
  written : ∀ entity value, entity.get? field = some value →
    (((schema.mapper map).rows.toRow? entity).isSome = true ↔ map.Fits)
  stored : ∀ entity row value, (schema.mapper map).rows.toRow? entity = some row →
    entity.get? field = some value →
    (∀ other cell, entity.get? other = some cell → map.get? other = some index → other = field) →
      row[index]? = some (first.transform.applyStore value)
  spared : ∀ entity other, other ≠ index →
    ((schema.mapper map).rows.toRow (entity.erase field))[other]? =
      ((schema.mapper map).rows.toRow entity)[other]?
  sorted : ∀ ascending, Repository.sort ⟨map, schema.mapper map⟩ (some field) ascending =
    Region.sort { column := some (Size.next index), ascending := some (ascending.getD false) }
  column : ∀ span, Region.sortColumn span (some (Size.next index)) =
    if index < Size.largest then Size.wrapped (index + span.column) else span.column
  key : ∀ span ascending,
    SortOptions.keyColumn { column := some (Size.next index), ascending } span =
      if index < Size.largest then span.column + index else span.column
  loaded : ∀ row, ((schema.mapper map).rows.toEntity row).get? field =
    some (first.transform.applyLoad (row.getD source .empty))
  agrees : (∀ row, ((schema.mapper map).rows.toEntity row).get? field =
      some (first.transform.applyLoad (row.getD index .empty))) ↔
    index = source ∨ ∀ left right,
      first.transform.applyLoad left = first.transform.applyLoad right
  sortsAlike : (∀ span ascending,
      SortOptions.keyColumn { column := some (Size.next index), ascending } span =
        span.column + index) ↔ index < Size.largest
  once : (options.columns.map Prod.fst).count field = 1 → index = source

variable {options : SchemaOptions} {schema : Schema} {headers : List String} {map : ColumnMap}
  {field : String} {column : Column}

theorem transform_of_column (declared : schema.column? field = some column) :
    schema.transformOf field = column.transform := by
  rw [transformOf, declared]

/-- Loading from one position reads like loading from another one exactly if they are the same, or
if loading does not look at cells at all. -/
theorem loads_alike_iff {load : Cell → Cell} {index source : Nat} :
    (∀ row : Row, load (row.getD source .empty) = load (row.getD index .empty)) ↔
      index = source ∨ ∀ left right, load left = load right := by
  constructor
  · intro alike
    by_cases same : index = source
    · exact Or.inl same
    · refine Or.inr fun left right => ?_
      obtain ⟨row, here, there⟩ := exists_row_with same right left
      rw [← here, ← there]
      exact alike row
  · rintro (rfl | constant) row
    · rfl
    · exact constant _ _

theorem sort_column_next (index : Nat) (span : Span) :
    Region.sortColumn span (some (Size.next index)) =
      if index < Size.largest then Size.wrapped (index + span.column) else span.column := by
  by_cases below : index < Size.largest
  · rw [Size.next_of_lt below, if_pos below, Region.sortColumn]
  · rw [Size.next_of_le (Nat.le_of_not_lt below), if_neg below]
    rfl

theorem key_column_next (index : Nat) (span : Span) (ascending : Option Bool) :
    SortOptions.keyColumn { column := some (Size.next index), ascending } span =
      if index < Size.largest then span.column + index else span.column := by
  rw [SortOptions.keyColumn, Option.getD_some]
  by_cases below : index < Size.largest
  · rw [Size.next_of_lt below, if_pos below]
    omega
  · rw [Size.next_of_le (Nat.le_of_not_lt below), if_neg below]
    omega

theorem key_column_next_iff {index : Nat} :
    (∀ span ascending, SortOptions.keyColumn { column := some (Size.next index), ascending } span =
        span.column + index) ↔ index < Size.largest := by
  simp only [key_column_next]
  constructor
  · intro alike
    by_contra beyond
    have same := alike default none
    rw [if_neg beyond] at same
    have positive : 0 < Size.largest := by decide
    omega
  · intro below span ascending
    rw [if_pos below]

/-- All uses of a declared field go by its first declaration, except that it is loaded from the
position of the last one. So reading and writing agree on one column exactly if both positions are
the same, or if loading does not look at the cell; and they do for a field declared once. Sorting
goes by that column too, unless its position is the largest size. -/
theorem field_columns_agree_iff (validated : options.validate = .ok schema)
    (built : ColumnMap.build schema.columns headers = .ok map)
    (declared : field ∈ options.columns.map Prod.fst) :
    ∃ first last index source,
      FieldColumns options schema headers map field first last index source := by
  have columns := SchemaOptions.columns_of_validate validated
  have entries := ColumnMap.entries_of_build built
  let declares : ColumnOptions → Column → Prop := fun written column =>
    written.declare = .ok column
  let places : Column → Nat → Prop := fun column index =>
    ColumnMap.locate headers column.selector = .ok index
  obtain ⟨⟨name, written⟩, listed, rfl⟩ := List.mem_map.1 declared
  obtain ⟨earliest, foundFirst⟩ := named_of_mem listed
  obtain ⟨latest, foundLast⟩ := named_of_mem (List.mem_reverse.2 listed)
  obtain ⟨first, column, declaresFirst⟩ := named_beside declares columns foundFirst
  obtain ⟨last, columnLast, declaresLast⟩ := named_reversed declares columns foundLast
  obtain ⟨index, mapped, located⟩ := named_beside places entries column
  replace mapped : map.get? name = some index := mapped
  obtain ⟨source, loads, locatedLast⟩ := named_reversed places entries columnLast
  have transform : schema.transformOf name = first.transform := transform_of_column column
  have loaded : ∀ row, ((schema.mapper map).rows.toEntity row).get? name =
      some (first.transform.applyLoad (row.getD source .empty)) := by
    intro row
    rw [entity_field, (schema.mapper map).rows.raw_cell loads, Option.map_some, transform]
  refine ⟨first, last, index, source, ⟨⟨earliest, foundFirst, declaresFirst⟩,
    ⟨latest, foundLast, declaresLast⟩⟩, located, locatedLast, mapped, ?written, ?stored, ?spared,
    ?sorted, sort_column_next index, key_column_next index, loaded, ?agrees, key_column_next_iff, ?once⟩
  case written =>
    intro entity value held
    exact (schema.mapper map).rows.made_iff_fits held mapped
  case stored =>
    intro entity row value made held alone
    have fits : map.Fits := (schema.mapper map).rows.fits_of_made made held mapped
    rw [((schema.mapper map).rows.to_row_some_iff.1 made).2,
      (schema.mapper map).rows.to_row_alone fits mapped held alone, store_field, transform]
  case spared =>
    intro entity other apart
    exact (schema.mapper map).rows.to_row_erase entity mapped apart
  case sorted => exact Repository.sort_by_mapped mapped
  case agrees =>
    simp only [loaded, Option.some.injEq]
    exact loads_alike_iff
  case once =>
    intro once
    rw [named_once once, foundFirst] at foundLast
    obtain rfl := Option.some.inj foundLast
    obtain rfl := Except.ok.inj (declaresFirst.symm.trans declaresLast)
    exact Except.ok.inj (located.symm.trans locatedLast)

def twiceNamed : SchemaOptions :=
  ((SchemaOptions.ofSelector (.name "people")).addColumn "name" (.position 0)).addColumn "name"
    (.position 1)

theorem name_has_two_columns :
    ∃ schema map, twiceNamed.validate = .ok schema ∧
      ColumnMap.build schema.columns [] = .ok map ∧
      ∃ first last index source,
        FieldColumns twiceNamed schema [] map "name" first last index source :=
  ⟨_, _, rfl, rfl, field_columns_agree_iff rfl rfl List.mem_cons_self⟩

/-- The name is written to the first column and read from the second one. -/
theorem repeated_name_reads_elsewhere :
    ∃ schema map, twiceNamed.validate = .ok schema ∧
      ColumnMap.build schema.columns [] = .ok map ∧ map.get? "name" = some 0 ∧
      (schema.mapper map).rows.toRow (.ofList [("name", .string "Cid")]) =
        [.string "Cid", .empty] ∧
      ((schema.mapper map).rows.toEntity [.string "Ann", .string "Bea"]).get? "name" =
        some (.string "Bea") ∧
      ¬∀ row, ((schema.mapper map).rows.toEntity row).get? "name" =
        some ((schema.transformOf "name").applyLoad (row.getD 0 .empty)) := by
  refine ⟨_, _, rfl, rfl, rfl, rfl, rfl, fun agrees => ?_⟩
  have read := agrees [.string "Ann", .string "Bea"]
  exact absurd read (by decide)

end Schema

end GridStore
