import GridStore.Proofs.DataSource.Reuse
import Mathlib.Data.List.Induction
import Mathlib.Data.List.Nodup

/-!
Which options make a data source. The entities are checked one by one against those before them,
and the first of them that is not in order is what is reported; the workbook comes last. Once there
is a data source, exactly the entities that were listed can be asked for, whatever happens to it,
and a repository has the columns of its entity in the order of declaration.
-/

set_option autoImplicit false

namespace GridStore

namespace ColumnOptions

theorem declare_ok_iff {written : ColumnOptions} {column : Column} :
    written.declare = .ok column ↔ written.selector? = some column.selector ∧
      column.isPrimary = written.isPrimary ∧ column.transform = written.transform := by
  obtain ⟨selector, isPrimary, transform⟩ := column
  cases selected : written.selector? with
  | none => simp [declare, selected]
  | some found =>
      simp only [declare, selected, Except.ok.injEq, Column.mk.injEq, Option.some.injEq]
      exact and_congr_right fun _ => and_congr eq_comm eq_comm

/-- Only the full form of a column can be without a selector. -/
theorem declare_error_iff {written : ColumnOptions} {cause : SchemaError} :
    written.declare = .error cause ↔
      (∃ isPrimary transform, written = .full none isPrimary transform) ∧
        cause = .columnWithoutSelector := by
  cases written with
  | position index => simp [declare, selector?]
  | header text => simp [declare, selector?]
  | full selector isPrimary transform =>
      cases selector with
      | some found => simp [declare, selector?]
      | none => simp [declare, selector?, eq_comm]

end ColumnOptions

namespace SchemaOptions

def HasBareColumn (options : SchemaOptions) : Prop :=
  ∃ field isPrimary transform, (field, .full none isPrimary transform) ∈ options.columns

/-- What is wrong with an entity that comes after others. A missing selector counts first, then its
columns, then the selector of another entity. -/
inductive Offends (before : List SchemaOptions) (options : SchemaOptions) : SchemaError → Prop
  | unselected (missing : options.selector = none) :
      Offends before options (.missingOption "EntitySchema.selector")
  | bareColumn (selected : options.selector ≠ none) (bare : options.HasBareColumn) :
      Offends before options .columnWithoutSelector
  | taken {selector : Selector} (selected : options.selector = some selector)
      (complete : ¬options.HasBareColumn)
      (listed : ∃ earlier ∈ before, earlier.selector = some selector) :
      Offends before options (.duplicate selector)

structure Sound (entities : List SchemaOptions) : Prop where
  selected : ∀ options ∈ entities, options.selector ≠ none
  complete : ∀ options ∈ entities, ¬options.HasBareColumn
  distinct : entities.Pairwise fun earlier later => earlier.selector ≠ later.selector

structure Describes (options : SchemaOptions) (schema : Schema) : Prop where
  selector : options.selector = some schema.selector
  ranges : schema.ranges = options.ranges
  columns : List.Forall₂ (fun written column => column.1 = written.1 ∧
    written.2.selector? = some column.2.selector ∧ column.2.isPrimary = written.2.isPrimary ∧
      column.2.transform = written.2.transform) options.columns schema.columns
  transform : schema.transform = options.transform

variable {options : SchemaOptions} {schema : Schema} {cause : SchemaError}
  {before entities : List SchemaOptions}

theorem offends_unique {other : SchemaError} (one : options.Offends before cause)
    (two : options.Offends before other) : cause = other := by
  cases one with
  | unselected missing =>
      cases two with
      | unselected => rfl
      | bareColumn selected => exact absurd missing selected
      | taken selected => simp [missing] at selected
  | bareColumn selected bare =>
      cases two with
      | unselected missing => exact absurd missing selected
      | bareColumn => rfl
      | taken _ complete => exact absurd bare complete
  | taken selected complete listed =>
      cases two with
      | unselected missing => simp [missing] at selected
      | bareColumn _ bare => exact absurd bare complete
      | taken again => rw [Option.some.inj (selected.symm.trans again)]

/-- One more entity leaves all in order exactly if nothing is wrong with it. -/
theorem sound_append_iff :
    Sound (before ++ [options]) ↔ Sound before ∧ ∀ cause, ¬options.Offends before cause := by
  constructor
  · rintro ⟨selected, complete, distinct⟩
    have last : options ∈ before ++ [options] := List.mem_append_right _ List.mem_cons_self
    obtain ⟨earlier, -, apart⟩ := List.pairwise_append.1 distinct
    refine ⟨⟨fun other member => selected other (List.mem_append_left _ member),
      fun other member => complete other (List.mem_append_left _ member), earlier⟩, ?_⟩
    rintro cause (missing | ⟨-, bare⟩ | ⟨named, -, other, member, same⟩)
    · exact selected options last missing
    · exact complete options last bare
    · exact apart other member options List.mem_cons_self (same.trans named.symm)
  · rintro ⟨⟨selected, complete, distinct⟩, fine⟩
    have named : options.selector ≠ none := fun missing => fine _ (.unselected missing)
    have whole : ¬options.HasBareColumn := fun bare => fine _ (.bareColumn named bare)
    obtain ⟨selector, same⟩ := Option.ne_none_iff_exists'.1 named
    refine ⟨?_, ?_, List.pairwise_append.2 ⟨distinct, List.pairwise_singleton _ _, ?_⟩⟩
    · simpa [or_imp, forall_and] using ⟨selected, named⟩
    · simpa [or_imp, forall_and] using ⟨complete, whole⟩
    · intro earlier member last here shared
      obtain rfl := List.mem_singleton.1 here
      exact fine _ (.taken same whole ⟨earlier, member, shared.trans same⟩)

theorem Sound.fine {rest : List SchemaOptions} (sound : Sound (before ++ options :: rest)) :
    ¬options.Offends before cause := by
  rw [List.append_cons] at sound
  have sofar : Sound (before ++ [options]) :=
    ⟨fun other member => sound.selected other (List.mem_append_left _ member),
      fun other member => sound.complete other (List.mem_append_left _ member),
      (List.pairwise_append.1 sound.distinct).1⟩
  exact (sound_append_iff.1 sofar).2 cause

theorem describes_of_validate (validated : options.validate = .ok schema) :
    options.Describes schema := by
  have columns := columns_of_validate validated
  rw [validate] at validated
  cases selected : options.selector with
  | none =>
      rw [selected] at validated
      cases validated
  | some selector =>
      simp only [selected] at validated
      obtain ⟨listed, -, made⟩ := except_bind_ok_iff.1 validated
      cases made
      refine ⟨selected, rfl, columns.imp fun written column declared => ?_, rfl⟩
      exact ⟨declared.1, ColumnOptions.declare_ok_iff.1 declared.2⟩

theorem Describes.complete (describes : options.Describes schema) : ¬options.HasBareColumn := by
  rintro ⟨field, isPrimary, transform, member⟩
  obtain ⟨column, -, -, selected, -⟩ := partner_of_beside describes.columns member
  cases selected

theorem missing_of_failed_validate (failed : options.validate = .error cause) :
    (options.selector = none ∧ cause = .missingOption "EntitySchema.selector") ∨
      options.selector ≠ none ∧ options.HasBareColumn ∧ cause = .columnWithoutSelector := by
  rw [validate] at failed
  cases selected : options.selector with
  | none =>
      rw [selected] at failed
      cases failed
      exact Or.inl ⟨rfl, rfl⟩
  | some selector =>
      simp only [selected] at failed
      rcases except_bind_error_iff.1 failed with unlisted | ⟨columns, -, ended⟩
      · obtain ⟨⟨field, written⟩, member, stepped⟩ := failed_of_map_m unlisted
        rcases except_bind_error_iff.1 stepped with undeclared | ⟨column, -, ended⟩
        · obtain ⟨⟨isPrimary, transform, rfl⟩, rfl⟩ :=
            ColumnOptions.declare_error_iff.1 undeclared
          exact Or.inr ⟨by simp, ⟨field, isPrimary, transform, member⟩, rfl⟩
        · cases ended
      · cases ended

end SchemaOptions

namespace DataSource

open SchemaOptions (Sound)

variable {options : SchemaOptions} {schemas : List Schema} {cause : SchemaError}
  {before entities : List SchemaOptions} {selector : Selector}

def Tabled (entities : List SchemaOptions) (schemas : List Schema) : Prop :=
  List.Forall₂ SchemaOptions.Describes entities schemas

theorem listed_of_tabled (tabled : Tabled entities schemas) :
    schemas.map (fun schema => some schema.selector) = entities.map SchemaOptions.selector := by
  induction tabled with
  | nil => rfl
  | cons here later induction => rw [List.map_cons, List.map_cons, here.selector, induction]

/-- A selector is in use exactly if an entity so far has it. -/
theorem taken_iff (tabled : Tabled entities schemas) :
    (∃ schema ∈ schemas, schema.selector = selector) ↔
      ∃ earlier ∈ entities, earlier.selector = some selector := by
  have same : some selector ∈ schemas.map (fun schema => some schema.selector) ↔
      some selector ∈ entities.map SchemaOptions.selector := by rw [listed_of_tabled tabled]
  simpa using same

/-- One entity more. It gets its schema, unless something is wrong with it. -/
theorem add_schema_cases (tabled : Tabled before schemas) (options : SchemaOptions) :
    (∃ schema, addSchema schemas options = .ok (schemas ++ [schema]) ∧
        options.Describes schema ∧ ∀ cause, ¬options.Offends before cause) ∨
      ∃ cause, addSchema schemas options = .error cause ∧ options.Offends before cause := by
  rw [addSchema]
  cases validated : options.validate with
  | error cause =>
      refine Or.inr ⟨cause, rfl, ?_⟩
      rcases SchemaOptions.missing_of_failed_validate validated with
        ⟨missing, rfl⟩ | ⟨selected, bare, rfl⟩
      · exact .unselected missing
      · exact .bareColumn selected bare
  | ok schema =>
      have describes := SchemaOptions.describes_of_validate validated
      by_cases taken : ∃ other ∈ schemas, other.selector = schema.selector
      · refine Or.inr ⟨.duplicate schema.selector, ?_,
          .taken describes.selector describes.complete ((taken_iff tabled).1 taken)⟩
        have used : (schemas.any fun other => other.selector = schema.selector) = true := by
          simpa using taken
        simp only [bind, Except.bind, used, if_true]
        rfl
      · refine Or.inl ⟨schema, ?_, describes, ?_⟩
        · have unused : (schemas.any fun other => other.selector = schema.selector) = false := by
            simpa using taken
          simp only [bind, Except.bind, unused, Bool.false_eq_true, if_false]
          rfl
        · rintro cause (missing | ⟨-, bare⟩ | ⟨named, -, listed⟩)
          · rw [describes.selector] at missing
            cases missing
          · exact describes.complete bare
          · obtain rfl := Option.some.inj (describes.selector.symm.trans named)
            exact taken ((taken_iff tabled).2 listed)

theorem add_schema_error_iff (tabled : Tabled before schemas) :
    addSchema schemas options = .error cause ↔ options.Offends before cause := by
  rcases add_schema_cases tabled options with ⟨schema, added, -, fine⟩ | ⟨other, refused, offends⟩
  · rw [added]
    exact iff_of_false (fun failed => nomatch failed) (fine cause)
  · rw [refused, Except.error.injEq]
    exact ⟨fun same => same ▸ offends, SchemaOptions.offends_unique offends⟩

/-- Entities that have all been added are in order, and have their schemas. The induction is on the
entities so far, as these are what the next one is checked against. -/
theorem sound_of_collected (collected : entities.foldlM addSchema [] = .ok schemas) :
    Sound entities ∧ Tabled entities schemas := by
  induction entities using List.reverseRecOn generalizing schemas with
  | nil =>
      cases collected
      exact ⟨⟨fun _ => nofun, fun _ => nofun, .nil⟩, .nil⟩
  | append_singleton before options induction =>
      simp only [List.foldlM_append, List.foldlM_cons, List.foldlM_nil, bind_pure] at collected
      obtain ⟨sofar, earlier, added⟩ := except_bind_ok_iff.1 collected
      obtain ⟨sound, tabled⟩ := induction earlier
      rcases add_schema_cases tabled options with
        ⟨schema, appended, describes, fine⟩ | ⟨cause, refused, -⟩
      · obtain rfl := Except.ok.inj (added.symm.trans appended)
        exact ⟨SchemaOptions.sound_append_iff.2 ⟨sound, fine⟩,
          List.rel_append tabled (.cons describes .nil)⟩
      · rw [refused] at added
        cases added

theorem first_of_uncollected (failed : entities.foldlM addSchema [] = .error cause) :
    ∃ before options rest, entities = before ++ options :: rest ∧ Sound before ∧
      options.Offends before cause := by
  induction entities using List.reverseRecOn with
  | nil => cases failed
  | append_singleton sofar last induction =>
      simp only [List.foldlM_append, List.foldlM_cons, List.foldlM_nil, bind_pure] at failed
      rcases except_bind_error_iff.1 failed with earlier | ⟨schemas, collected, refused⟩
      · obtain ⟨before, options, rest, rfl, sound, offends⟩ := induction earlier
        exact ⟨before, options, rest ++ [last], by simp, sound, offends⟩
      · obtain ⟨sound, tabled⟩ := sound_of_collected collected
        exact ⟨sofar, last, [], rfl, sound, (add_schema_error_iff tabled).1 refused⟩

theorem collected_of_sound (sound : Sound entities) :
    ∃ schemas, entities.foldlM addSchema [] = .ok schemas := by
  cases collected : entities.foldlM addSchema [] with
  | ok schemas => exact ⟨schemas, rfl⟩
  | error cause =>
      obtain ⟨before, options, rest, rfl, -, offends⟩ := first_of_uncollected collected
      exact absurd offends sound.fine

theorem collects_iff :
    (∃ schemas, entities.foldlM addSchema [] = .ok schemas) ↔ Sound entities := by
  constructor
  · rintro ⟨schemas, collected⟩
    exact (sound_of_collected collected).1
  · exact collected_of_sound

theorem uncollected_iff :
    entities.foldlM addSchema [] = .error cause ↔
      ∃ before options rest, entities = before ++ options :: rest ∧ Sound before ∧
        options.Offends before cause := by
  constructor
  · exact first_of_uncollected
  · rintro ⟨before, options, rest, rfl, sound, offends⟩
    obtain ⟨schemas, collected⟩ := collected_of_sound sound
    have refused := (add_schema_error_iff (sound_of_collected collected).2).2 offends
    rw [List.foldlM_append, collected]
    show List.foldlM addSchema schemas (options :: rest) = .error cause
    rw [List.foldlM_cons, refused]
    rfl

end DataSource

/-- What a workbook is refused for: the first entity that is not in order, or else another workbook
than the one expected. -/
inductive SourceOptions.Rejected (options : SourceOptions) (workbook : Workbook) : Error → Prop
  | entity {before rest : List SchemaOptions} {first : SchemaOptions} {cause : SchemaError}
      (listed : options.entities = before ++ first :: rest) (sound : SchemaOptions.Sound before)
      (offends : first.Offends before cause) : Rejected options workbook (.schema cause)
  | workbook {id : String} (sound : SchemaOptions.Sound options.entities)
      (expected : options.id = some id) (other : id ≠ workbook.id) :
      Rejected options workbook (.wrongWorkbook id)

/-- A repository with the columns of an entity, in the order of declaration. They are where the
names in some headers had them, and are converted as the entity says. -/
structure SchemaOptions.Serves (options : SchemaOptions) (repository : Repository) : Prop where
  columns : ∃ names, List.Forall₂ (fun written entry => entry.1 = written.1 ∧
    ∃ selector, written.2.selector? = some selector ∧
      ColumnMap.locate names selector = .ok entry.2) options.columns repository.map.entries
  mapper : ∃ schema, options.Describes schema ∧ repository.mapper = schema.mapper repository.map

namespace DataSource

open SchemaOptions (Sound)

variable {source opened : DataSource} {workbook : Workbook} {options : SourceOptions}
  {entities : List SchemaOptions} {schemas : List Schema} {entity : SchemaOptions}
  {selector : Selector} {place : Nat}

/-- A data source for which exactly some entities exist. Their schemas are there, and connecting to
one of them leads to a repository with its columns. -/
structure Knows (source : DataSource) (entities : List SchemaOptions) : Prop where
  tabled : Tabled entities source.schemas
  unknown : ∀ selector,
    (∃ later, connect selector source = .error (.entityNotFound selector) later) ↔
      ∀ entity ∈ entities, entity.selector ≠ some selector
  serves : ∀ entity ∈ entities, ∀ selector place opened, entity.selector = some selector →
    connect selector source = .ok place opened → ∃ binding,
      opened.bindings[place]? = some binding ∧ binding.selector = selector ∧
        entity.Serves binding.repository

theorem check_id_ok_iff {expected : Option String} :
    workbook.checkId expected = .ok () ↔ expected = none ∨ expected = some workbook.id := by
  cases expected with
  | none => simp [Workbook.checkId]
  | some id => by_cases same : id = workbook.id <;> simp [Workbook.checkId, same]

theorem check_id_error_iff {expected : Option String} {error : Error} :
    workbook.checkId expected = .error error ↔
      ∃ id, expected = some id ∧ id ≠ workbook.id ∧ error = .wrongWorkbook id := by
  cases expected with
  | none => simp [Workbook.checkId]
  | some id => by_cases same : id = workbook.id <;> simp [Workbook.checkId, same, eq_comm]

theorem accepts_iff :
    (∃ start, ofOptions workbook options = .ok start) ↔
      Sound options.entities ∧ (options.id = none ∨ options.id = some workbook.id) := by
  rw [← collects_iff, ← check_id_ok_iff]
  constructor
  · rintro ⟨start, started⟩
    obtain ⟨schemas, collected, checked, -⟩ := of_options_ok_iff.1 started
    exact ⟨⟨schemas, collected⟩, checked⟩
  · rintro ⟨⟨schemas, collected⟩, checked⟩
    exact ⟨_, of_options_ok_iff.2 ⟨schemas, collected, checked, rfl⟩⟩

/-- With all entities in order, it is the workbook that decides. -/
theorem error_of_workbook_iff {error : Error}
    (collected : options.entities.foldlM addSchema [] = .ok schemas) :
    ofOptions workbook options = .error error ↔ workbook.checkId options.id = .error error := by
  rw [ofOptions, collected]
  cases workbook.checkId options.id with
  | error cause =>
      constructor <;>
        · intro failed
          cases failed
          rfl
  | ok nothing =>
      constructor <;>
        · intro failed
          cases failed

/-- The entities are looked at before the workbook is. -/
theorem rejects_iff {error : Error} :
    ofOptions workbook options = .error error ↔ options.Rejected workbook error := by
  constructor
  · intro failed
    cases collected : options.entities.foldlM addSchema [] with
    | error cause =>
        rw [ofOptions, collected] at failed
        cases failed
        obtain ⟨before, first, rest, listed, sound, offends⟩ := first_of_uncollected collected
        exact .entity listed sound offends
    | ok schemas =>
        obtain ⟨id, expected, other, rfl⟩ :=
          check_id_error_iff.1 ((error_of_workbook_iff collected).1 failed)
        exact .workbook (sound_of_collected collected).1 expected other
  · rintro (⟨listed, sound, offends⟩ | ⟨sound, expected, other⟩)
    · rw [ofOptions, uncollected_iff.2 ⟨_, _, _, listed, sound, offends⟩]
      rfl
    · obtain ⟨schemas, collected⟩ := collected_of_sound sound
      exact (error_of_workbook_iff collected).2
        (check_id_error_iff.2 ⟨_, expected, other, rfl⟩)

/-- An entity is unknown exactly if there is no schema for it, whether or not a repository could be
opened. -/
theorem unknown_iff (opened : source.AllOpened) :
    (∃ later, connect selector source = .error (.entityNotFound selector) later) ↔
      ∀ schema ∈ source.schemas, schema.selector ≠ selector := by
  constructor
  · rintro ⟨later, failed⟩
    obtain ⟨-, -, refused⟩ := refusal_of_failed_connect failed
    generalize reported : Error.entityNotFound selector = error at refused
    cases refused with
    | unknown missing => exact missing
    | _ => cases reported
  · intro missing
    refine ⟨source, connect_unknown ?_ ?_⟩
    · rintro ⟨binding, member, rfl⟩
      obtain ⟨schema, listed, named, -⟩ := well_bound_of_all_opened opened binding member
      exact missing schema listed named.symm
    · simpa using missing

/-- Entities that are in order can be told apart by their selectors. -/
theorem describes_of_selector (sound : Sound entities) (tabled : Tabled entities schemas)
    (member : entity ∈ entities) {schema : Schema} (listed : schema ∈ schemas)
    (named : entity.selector = some schema.selector) : entity.Describes schema := by
  obtain ⟨other, there, describes⟩ := partner_of_beside (List.Forall₂.flip tabled) listed
  have distinct : (entities.map SchemaOptions.selector).Nodup :=
    List.pairwise_map.2 sound.distinct
  obtain rfl := List.inj_on_of_nodup_map distinct there member
    (describes.selector.trans named.symm)
  exact describes

theorem serves_of_open {schema : Schema} {binding : Binding} (describes : entity.Describes schema)
    (began : source.open? schema = .ok binding) : entity.Serves binding.repository := by
  obtain ⟨sheet, grid, map, span, view, -, binds, rfl⟩ := open_ok_iff.1 began
  obtain ⟨ranges, names, finds, -⟩ := Schema.bind_ok_iff.1 binds
  refine ⟨⟨names, ?_⟩, schema, describes, rfl⟩
  refine (beside_trans describes.columns (ColumnMap.entries_of_build finds.columns)).imp ?_
  rintro written entry ⟨column, ⟨field, selected, -, -⟩, placed, located⟩
  exact ⟨placed.trans field, column.2.selector, selected, located⟩

theorem knows_of_tabled (opened : source.AllOpened) (sound : Sound entities)
    (tabled : Tabled entities source.schemas) : source.Knows entities := by
  refine ⟨tabled, fun selector => ?_,
    fun entity member selector place connected named connects => ?_⟩
  · rw [unknown_iff opened]
    simpa using not_congr (taken_iff tabled)
  · obtain ⟨binding, placed⟩ := placed_of_connect connects
    have later := all_opened_connect opened selector
    have schemas := schemas_after_connect selector source
    rw [final_of_ok connects] at later schemas
    obtain ⟨schema, listed, earlier, first, began, same, kept⟩ :=
      later binding (List.mem_of_getElem? placed.held)
    rw [schemas] at listed
    have described : schema.selector = selector :=
      (well_bound_of_opened began).1.symm.trans (same.symm.trans placed.named)
    refine ⟨binding, placed.held, placed.named, ?_⟩
    rw [kept]
    exact serves_of_open (describes_of_selector sound tabled member listed
      (named.trans (congrArg some described.symm))) began

/-- There is a data source exactly if all entities have a selector and their columns have one too,
no two entities have the same, and the workbook is the expected one. What is reported otherwise is
what is wrong with the first entity that is not in order, and the workbook only if all of them are.
Whatever happens to the data source, it knows exactly these entities. -/
theorem entities_checked_in_turn (workbook : Workbook) (options : SourceOptions) :
    ((∃ start, ofOptions workbook options = .ok start) ↔
        Sound options.entities ∧ (options.id = none ∨ options.id = some workbook.id)) ∧
      (∀ error, ofOptions workbook options = .error error ↔ options.Rejected workbook error) ∧
      (∀ start events, ofOptions workbook options = .ok start →
        (start.afterAll events).Knows options.entities) ∧
      ∀ index text, Selector.position index ≠ .name text := by
  refine ⟨accepts_iff, fun error => rejects_iff, fun start events started => ?_, nofun⟩
  have opened := all_opened_after_all (all_opened_of_options started) events
  obtain ⟨schemas, collected, -, rfl⟩ := of_options_ok_iff.1 started
  obtain ⟨sound, tabled⟩ := sound_of_collected collected
  refine knows_of_tabled opened sound ?_
  rw [schemas_after_all]
  exact tabled

def alikeEntities : SourceOptions where
  id := some "book"
  entities := [
    { peopleOptions ⟨1, 1, 2, 1⟩ with selector := some (.name "0") },
    { peopleOptions ⟨1, 1, 2, 1⟩ with selector := some (.position 0) }]

def alikeBook : Workbook where
  id := "book"
  sheets := [.ofRows "0" [[.string "Ann"], [.string "Bob"]]]

theorem alike_entities_known :
    ∃ start, ofOptions alikeBook alikeEntities = .ok start ∧
      (start.afterAll [.connect (.name "0")]).Knows alikeEntities.entities :=
  ⟨_, rfl, (entities_checked_in_turn alikeBook alikeEntities).2.2.1 _ _ rfl⟩

end DataSource

end GridStore
