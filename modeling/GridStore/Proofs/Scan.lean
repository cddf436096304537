import GridStore.Proofs.Region.Steps
import GridStore.Repository

/-!
Scans: what a visitor that never stops is shown, and what the searches of a repository make of it.
The row on which a strategy stops the scan is shown to the visitor, but is not among the entities
that the scan itself returns.
-/

set_option autoImplicit false

namespace GridStore

namespace EntityMapper

/-- What a visitor that never stops sees: entities with their positions, and whether a strategy
stopped the scan there. -/
def seen (mapper : EntityMapper) (index : Nat) : List Row → List (Entity × Nat × Bool)
  | [] => []
  | row :: rest =>
      let (entity, stopped) := mapper.load row index
      (entity, index, stopped) :: if stopped then [] else mapper.seen (index + 1) rest

def loadedFrom (mapper : EntityMapper) (index : Nat) (rows : List Row) : List (Entity × Bool) :=
  (rows.zipIdx index).map fun place => mapper.load place.1 place.2

def kept (mapper : EntityMapper) (rows : List Row) : List Entity :=
  ((mapper.loadedFrom 0 rows).takeWhile fun loaded => !loaded.2).map Prod.fst

def stopped? (mapper : EntityMapper) (rows : List Row) : Option Entity :=
  ((mapper.loadedFrom 0 rows).find? Prod.snd).map Prod.fst

variable {σ : Type} (mapper : EntityMapper) {row : Row} {rest : List Row} {index : Nat}

theorem seen_at_stop {mapper : EntityMapper} (stops : (mapper.load row index).2 = true) :
    mapper.seen index (row :: rest) = [((mapper.load row index).1, index, true)] := by
  simp [seen, stops]

theorem seen_going_on {mapper : EntityMapper} (goes : (mapper.load row index).2 = false) :
    mapper.seen index (row :: rest) =
      ((mapper.load row index).1, index, false) :: mapper.seen (index + 1) rest := by
  simp [seen, goes]

theorem loaded_from_cons (index : Nat) (row : Row) (rest : List Row) :
    mapper.loadedFrom index (row :: rest) =
      mapper.load row index :: mapper.loadedFrom (index + 1) rest := rfl

theorem scan_from_quiet {visit : Visitor σ}
    (quiet : ∀ state entity index stopped, (visit state entity index stopped).2 = false)
    (index : Nat) (state : σ) (rows : List Row) :
    mapper.scanFrom visit index state rows =
      (((mapper.loadedFrom index rows).takeWhile fun loaded => !loaded.2).map Prod.fst,
        (mapper.seen index rows).foldl
          (fun state sight => (visit state sight.1 sight.2.1 sight.2.2).1) state) := by
  induction rows generalizing index state with
  | nil => rfl
  | cons row rest induction =>
      rw [scanFrom, loaded_from_cons]
      cases stops : (mapper.load row index).2 with
      | true => simp [seen_at_stop stops, stops]
      | false => simp [seen_going_on stops, stops, quiet, induction]

theorem scan_idle (rows : List Row) : (mapper.scan .idle () rows).1 = mapper.kept rows := by
  have quiet : ∀ (state : Unit) entity index stopped,
      (Visitor.idle state entity index stopped).2 = false :=
    fun state entity index stopped => rfl
  rw [scan, mapper.scan_from_quiet quiet]
  rfl

/-- Everything seen is kept, except for the row that stops the scan, which comes last. -/
theorem seen_entities (rows : List Row) :
    (mapper.seen 0 rows).map Prod.fst = mapper.kept rows ++ (mapper.stopped? rows).toList := by
  rw [kept, stopped?]
  generalize 0 = index
  induction rows generalizing index with
  | nil => rfl
  | cons row rest induction =>
      rw [loaded_from_cons]
      cases stops : (mapper.load row index).2 with
      | true => simp [seen_at_stop stops, stops]
      | false =>
          rw [seen_going_on stops, List.map_cons, induction]
          simp [stops]

/-- Loading neither stops a scan nor depends on positions. -/
def IsSteady : Prop := ∀ row index, mapper.load row index = ((mapper.load row 0).1, false)

variable {mapper}

theorem seen_of_steady (steady : mapper.IsSteady) (index : Nat) (rows : List Row) :
    mapper.seen index rows =
      (rows.zipIdx index).map fun place => ((mapper.load place.1 0).1, place.2, false) := by
  induction rows generalizing index with
  | nil => rfl
  | cons row rest induction =>
      have goes : (mapper.load row index).2 = false := by rw [steady row index]
      rw [seen_going_on goes, steady row index, induction]
      rfl

theorem loaded_of_steady (steady : mapper.IsSteady) (rows : List Row) :
    mapper.loadedFrom 0 rows = rows.map fun row => ((mapper.load row 0).1, false) := by
  apply List.ext_getElem?
  intro place
  rw [loadedFrom, List.getElem?_map, List.getElem?_map, List.getElem?_zipIdx, Option.map_map]
  cases rows[place]? with
  | none => rfl
  | some row => exact congrArg some (steady row _)

theorem kept_of_steady (steady : mapper.IsSteady) (rows : List Row) :
    mapper.kept rows = rows.map fun row => (mapper.load row 0).1 := by
  rw [kept, loaded_of_steady steady, List.takeWhile_eq_self_iff.2 (by simp), List.map_map]
  rfl

theorem stopped_of_steady (steady : mapper.IsSteady) (rows : List Row) :
    mapper.stopped? rows = none := by
  rw [stopped?, loaded_of_steady steady, List.find?_eq_none.2 (by simp)]
  rfl

end EntityMapper

namespace Region

variable {σ : Type} {region after : Region}

theorem values_apply (region : Region) :
    values region = match region.sheet.grid.read region.span with
      | .ok rows => .ok rows region
      | .error cause => .error (.grid cause) region := by
  rw [values, Action.bind_of_ok Action.get_apply, onSheet, Sheet.values,
    Action.bind_of_ok Action.get_apply]
  cases region.sheet.grid.read region.span <;> rfl

theorem values_ok_iff {rows : List Row} :
    values region = .ok rows after ↔
      region.sheet.grid.checkBounds region.span = .ok () ∧
        rows = region.sheet.grid.block region.span ∧ after = region := by
  rw [values_apply]
  cases read : region.sheet.grid.read region.span with
  | ok shown =>
      obtain ⟨readable, rfl⟩ := Grid.read_ok_iff.1 read
      simp [readable, eq_comm]
  | error cause =>
      have unreadable : region.sheet.grid.checkBounds region.span ≠ .ok () := by
        intro readable
        rw [Grid.read_ok_iff.2 ⟨readable, rfl⟩] at read
        cases read
      simp [unreadable]

/-- Whatever is made of what an action has read, it fails where the reading fails. -/
theorem convert_read {α β : Type} {first : Action Region α} {result : List Row → α}
    (convert : α → β) {region : Region}
    (reads : first region = match region.sheet.grid.read region.span with
      | .ok rows => .ok (result rows) region
      | .error cause => .error (.grid cause) region) :
    (first >>= fun value => pure (convert value)) region =
      match region.sheet.grid.read region.span with
      | .ok rows => .ok (convert (result rows)) region
      | .error cause => .error (.grid cause) region := by
  cases held : region.sheet.grid.read region.span with
  | ok rows =>
      rw [held] at reads
      rw [Action.bind_of_ok reads]
      rfl
  | error cause =>
      rw [held] at reads
      rw [Action.bind_of_error reads]

theorem scan_apply (mapper : EntityMapper) (visit : EntityMapper.Visitor σ) (state : σ)
    (region : Region) :
    scan mapper visit state region = match region.sheet.grid.read region.span with
      | .ok rows => .ok (mapper.scan visit state rows) region
      | .error cause => .error (.grid cause) region :=
  convert_read (mapper.scan visit state) (values_apply region)

theorem entities_apply (mapper : EntityMapper) (region : Region) :
    entities mapper region = match region.sheet.grid.read region.span with
      | .ok rows => .ok (mapper.kept rows) region
      | .error cause => .error (.grid cause) region := by
  rw [entities, convert_read Prod.fst (scan_apply mapper .idle () region)]
  simp only [EntityMapper.scan_idle]

end Region

namespace Repository

theorem collect_quiet (filter : Filter) (found : List Entity) (entity : Entity) (index : Nat)
    (stopped : Bool) : (collect filter found entity index stopped).2 = false := rfl

theorem collected (filter : Filter) (sights : List (Entity × Nat × Bool)) (found : List Entity) :
    sights.foldl (fun found sight => (collect filter found sight.1 sight.2.1 sight.2.2).1) found =
      found ++ (sights.map Prod.fst).filter filter.accepts := by
  induction sights generalizing found with
  | nil => simp
  | cons sight rest induction =>
      rw [List.foldl_cons, induction, List.map_cons, List.filter_cons, collect]
      by_cases accepted : filter.accepts sight.1 = true
      · simp [accepted]
      · simp [accepted]

theorem scanned_entities (mapper : EntityMapper) (filter : Filter) (rows : List Row) :
    (mapper.scan (collect filter) [] rows).2 =
      (mapper.kept rows ++ (mapper.stopped? rows).toList).filter filter.accepts := by
  rw [EntityMapper.scan, mapper.scan_from_quiet (collect_quiet filter), collected,
    EntityMapper.seen_entities, List.nil_append]

theorem find_apply (repository : Repository) (filter : Filter) (region : Region) :
    repository.find filter region = match region.sheet.grid.read region.span with
      | .ok rows => .ok ((repository.mapper.kept rows ++
          (repository.mapper.stopped? rows).toList).filter filter.accepts) region
      | .error cause => .error (.grid cause) region := by
  rw [find, Region.convert_read Prod.snd (Region.scan_apply repository.mapper _ [] region)]
  simp only [scanned_entities]

theorem find_ok_iff {repository : Repository} (steady : repository.mapper.IsSteady)
    {filter : Filter} {region after : Region} {found : List Entity} :
    repository.find filter region = .ok found after ↔
      region.sheet.grid.checkBounds region.span = .ok () ∧ after = region ∧
        found = ((region.sheet.grid.block region.span).map fun row =>
          (repository.mapper.load row 0).1).filter filter.accepts := by
  rw [find_apply]
  cases read : region.sheet.grid.read region.span with
  | error cause =>
      constructor
      · intro failed
        cases failed
      · rintro ⟨readable, -⟩
        rw [Grid.read_ok_iff.2 ⟨readable, rfl⟩] at read
        cases read
  | ok rows =>
      obtain ⟨readable, rfl⟩ := Grid.read_ok_iff.1 read
      simp only [EntityMapper.kept_of_steady steady, EntityMapper.stopped_of_steady steady,
        Option.toList_none, List.append_nil, EStateM.Result.ok.injEq]
      constructor
      · rintro ⟨rfl, rfl⟩
        exact ⟨readable, rfl, rfl⟩
      · rintro ⟨-, rfl, rfl⟩
        exact ⟨rfl, rfl⟩

end Repository

end GridStore
