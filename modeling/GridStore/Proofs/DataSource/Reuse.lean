import GridStore.Proofs.DataSource.Connect
import GridStore.Proofs.DataSource.Follow

/-!
Connecting again. Once the repository of an entity has been opened it stays in its place, with the
columns it was opened with and what its own requests have left of its region. An entity that has
been refused leaves nothing behind, so that it can be connected to as soon as its sheet allows it.
-/

set_option autoImplicit false

namespace GridStore

/-- What one thing that happens leaves of a repository. A request for its entity works on its region,
and it remembers what that leaves. Nothing else touches it. -/
def Binding.after (binding : Binding) (source : DataSource) : Event → Binding
  | .ask selector request =>
      if selector = binding.selector then
        match source.region? binding with
        | some region =>
            let final := (request.serve binding.repository).final region
            { binding with cache := final.sheet.cache, span := final.span }
        | none => binding
      else binding
  | _ => binding

def Binding.throughout (binding : Binding) (source : DataSource) : List Event → Binding
  | [] => binding
  | event :: rest => (binding.after source event).throughout (source.after event) rest

/-- A repository for the same entity, with the same columns, on the same sheet. -/
structure Binding.Continues (later earlier : Binding) : Prop where
  selector : later.selector = earlier.selector
  repository : later.repository = earlier.repository
  sheet : later.sheet = earlier.sheet

theorem Binding.after_continues (binding : Binding) (source : DataSource) (event : Event) :
    (binding.after source event).Continues binding := by
  cases event with
  | connect selector => exact ⟨rfl, rfl, rfl⟩
  | change position update => exact ⟨rfl, rfl, rfl⟩
  | ask selector request =>
      rw [after]
      split
      · split <;> exact ⟨rfl, rfl, rfl⟩
      · exact ⟨rfl, rfl, rfl⟩

theorem Binding.throughout_continues (binding : Binding) (source : DataSource)
    (events : List Event) : (binding.throughout source events).Continues binding := by
  induction events generalizing binding source with
  | nil => exact ⟨rfl, rfl, rfl⟩
  | cons event rest induction =>
      have late := induction (binding.after source event) (source.after event)
      have early := binding.after_continues source event
      exact ⟨late.selector.trans early.selector, late.repository.trans early.repository,
        late.sheet.trans early.sheet⟩

namespace DataSource

variable {source : DataSource} {selector other : Selector} {place position sheet : Nat}
  {binding : Binding}

theorem Placed.named (placed : source.Placed selector place sheet binding) :
    binding.selector = selector := by
  obtain ⟨below, named, -⟩ := List.findIdx?_eq_some_iff_getElem.1 placed.found
  have held := placed.held
  rw [List.getElem?_eq_getElem below] at held
  obtain rfl := Option.some.inj held
  simpa using named

theorem placed_of_connect {connected : DataSource}
    (connects : connect selector source = .ok place connected) :
    ∃ binding, connected.Placed selector place binding.sheet binding := by
  have found := place_of_connect connects
  obtain ⟨below, -⟩ := List.findIdx?_eq_some_iff_getElem.1 found
  exact ⟨_, found, List.getElem?_eq_getElem below, rfl⟩

/-- Two entities are never served by one repository, whatever sheets they are on. -/
theorem place_eq_iff {later : DataSource} (placed : source.Placed selector place sheet binding)
    (connects : connect other source = .ok position later) : position = place ↔ other = selector := by
  have still := placed_after_connect placed other
  rw [final_of_ok connects] at still
  obtain ⟨found, stays⟩ := placed_of_connect connects
  constructor
  · rintro rfl
    obtain rfl := Option.some.inj (still.held.symm.trans stays.held)
    exact stays.named.symm.trans still.named
  · rintro rfl
    exact Option.some.inj (stays.found.symm.trans still.found)

theorem placed_after_other (placed : source.Placed selector place sheet binding)
    (apart : other ≠ selector) (request : Request) :
    (source.after (.ask other request)).Placed selector place sheet binding := by
  have still := placed_after_connect placed other
  rcases after_ask_cases other request source with
    same | ⟨connected, position, found, region, access, put⟩
  · rw [same]
    exact still
  · rw [final_of_ok access.connects] at still
    rw [put]
    exact placed_beside _ still access.held fun same =>
      apart ((place_eq_iff placed access.connects).1 same)

theorem placed_after_own (placed : source.Placed selector place sheet binding)
    (request : Request) :
    (source.after (.ask selector request)).Placed selector place sheet
      (binding.after source (.ask selector request)) := by
  rw [Binding.after, if_pos placed.named.symm]
  cases present : source.region? binding with
  | some region =>
      have access : Access source selector source place binding region :=
        ⟨connect_again placed.found, placed.held, present⟩
      have served : source.after (.ask selector request) =
          source.putRegion place binding ((request.serve binding.repository).final region) :=
        final_run_of_access access
      rw [served]
      refine ⟨?_, List.getElem?_set_self (List.getElem?_eq_some_iff.1 placed.held).1,
        placed.located⟩
      rw [find_after_put selector placed.held]
      exact placed.found
  | none =>
      rcases after_ask_cases selector request source with
        same | ⟨connected, position, found, region, access, -⟩
      · rw [same]
        exact placed_after_connect placed selector
      · -- The sheet of an open repository is there for every request or for none.
        have connects := access.connects
        rw [connect_again placed.found] at connects
        cases connects
        obtain rfl := Option.some.inj (placed.held.symm.trans access.held)
        have there := access.present
        rw [present] at there
        cases there

theorem placed_after (placed : source.Placed selector place sheet binding) (event : Event) :
    (source.after event).Placed selector place sheet (binding.after source event) := by
  cases event with
  | connect other =>
      rw [after, Event.run, final_discard]
      exact placed_after_connect placed other
  | ask other request =>
      by_cases own : other = selector
      · subst own
        exact placed_after_own placed request
      · rw [Binding.after, if_neg fun same => own (same.trans placed.named)]
        exact placed_after_other placed own request
  | change position update =>
      rcases change_grid_cases position update source with same | ⟨grid, final, -, -, changed⟩
      · rw [same]
        exact placed
      · rw [changed]
        exact ⟨placed.found, placed.held, placed.located⟩

theorem placed_after_all (placed : source.Placed selector place sheet binding)
    (events : List Event) :
    (source.afterAll events).Placed selector place sheet (binding.throughout source events) := by
  induction events generalizing source binding with
  | nil => exact placed
  | cons event rest induction => exact induction (placed_after placed event)

theorem schemas_after (source : DataSource) (event : Event) :
    (source.after event).schemas = source.schemas := by
  cases event with
  | connect other =>
      rw [after, Event.run, final_discard]
      exact schemas_after_connect other source
  | ask other request =>
      rw [after, Event.run]
      rcases final_run_cases other request.serve source with
        same | ⟨position, found, region, -, put⟩
      · rw [same]
        exact schemas_after_connect other source
      · rw [put]
        exact schemas_after_connect other source
  | change position update =>
      rcases change_grid_cases position update source with same | ⟨grid, final, -, -, changed⟩
      · rw [same]
      · rw [changed]

theorem schemas_after_all (source : DataSource) (events : List Event) :
    (source.afterAll events).schemas = source.schemas := by
  induction events generalizing source with
  | nil => rfl
  | cons event rest induction => exact (induction _).trans (schemas_after source event)

/-- The repository of an entity, once opened, is the one that connecting to it leads to from then
on, whatever happens, and no other entity is led to it. An entity that is refused leaves the data
source as it has been, and at any later time it is connected to exactly if it has been opened by
then, or the workbook has what it asks for. -/
theorem repository_stays (source : DataSource) (selector : Selector) :
    (∀ place opened, connect selector source = .ok place opened →
      opened.workbook = source.workbook ∧ ∃ binding, opened.bindings[place]? = some binding ∧
        binding.selector = selector ∧ ∀ events,
          connect selector (opened.afterAll events) = .ok place (opened.afterAll events) ∧
          (opened.afterAll events).bindings[place]? = some (binding.throughout opened events) ∧
          (binding.throughout opened events).Continues binding ∧
          ∀ other position later, connect other (opened.afterAll events) = .ok position later →
            (position = place ↔ other = selector)) ∧
    ∀ error final, connect selector source = .error error final →
      final = source ∧ Refusal source.schemas source.workbook selector error ∧
        ∀ events, (∃ place later, connect selector (source.afterAll events) = .ok place later) ↔
          (source.afterAll events).HasOpened selector ∨
            Allows source.schemas (source.afterAll events).workbook selector := by
  constructor
  · intro place opened connects
    have unchanged := workbook_after_connect selector source
    rw [final_of_ok connects] at unchanged
    obtain ⟨binding, placed⟩ := placed_of_connect connects
    refine ⟨unchanged, binding, placed.held, placed.named, fun events => ?_⟩
    have stays := placed_after_all placed events
    exact ⟨connect_again stays.found, stays.held, binding.throughout_continues opened events,
      fun other position later => place_eq_iff stays⟩
  · intro error final failed
    obtain ⟨unchanged, -, refused⟩ := refusal_of_failed_connect failed
    refine ⟨unchanged, refused, fun events => ?_⟩
    rw [connects_iff, schemas_after_all]

def misnamed : DataSource where
  workbook := ⟨"book", [.ofRows "people" [[.string "nick"], [.string "Ann"]]]⟩
  schemas := [{
    selector := .name "people"
    ranges := {
      headers := some (.ofResolver fun _ => .ok ⟨1, 1, 1, 1⟩)
      data := some (.ofResolver fun _ => .ok ⟨2, 1, 1, 1⟩) }
    columns := [("name", ⟨.header "name", false, {}⟩)]
    transform := {} }]
  bindings := []

/-- They are connected to as soon as the header has been put right. -/
example :
    connect (.name "people") misnamed =
        .error ((Error.headerNotFound "name").within "Entity people") misnamed ∧
      ∃ opened, connect (.name "people") (misnamed.after
        (.change 0 fun grid => grid.write ⟨1, 1, 1, 1⟩ [[.string "name"]])) = .ok 0 opened :=
  ⟨rfl, _, rfl⟩

end DataSource

end GridStore
