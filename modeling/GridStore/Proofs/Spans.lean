import GridStore.Proofs.DataSource.Follow
import GridStore.Proofs.DataSource.Unplaced
import GridStore.Proofs.Region.Anchored

/-!
Blocks of repositories whose data is found from the headers, or is everywhere: from the moment they
are opened they keep their corner and their width and lie within the grid, whatever happens to the
workbook, so searches never fail. After everything that changes rows through the repository the
block reaches the last row.
-/

set_option autoImplicit false

namespace GridStore

/-- What happens to a workbook: its repositories are opened and used, also those of other data
sources, which may have any block and remember anything, and its grids are changed. -/
inductive WorkbookEvent where
  | connect (selector : Selector)
  | ask (selector : Selector) (request : Request)
  | elsewhere (position : Nat) (repository : Repository) (cache : MetricCache) (span : Span)
      (request : Request)
  | change (position : Nat) (update : GridChange)

def WorkbookEvent.event : WorkbookEvent → Event
  | .connect selector => .connect selector
  | .ask selector request => .ask selector request
  | .elsewhere position repository cache span request => .change position fun grid =>
      .ok ((request.serve repository).final ⟨⟨grid, cache⟩, span⟩).sheet.grid
  | .change position update => .change position update.apply

theorem Region.anchoring_relies (block : Span) :
    Relies Grid.growingFrame (Region.anchoringFrame block) where
  changes repository request region :=
    (Region.serve_anchors repository request region : (anchoringFrame block).related _ _).1
  serves := Region.serve_anchors
  bears _ _ grows := Region.related_of_grown rfl grows

namespace DataSource

/-- The repository of an entity is at a place, and anchored to a block on a sheet. -/
structure Fastened (source : DataSource) (selector : Selector) (place sheet : Nat) (block : Span)
    (binding : Binding) (grid : Grid) : Prop where
  found : source.bindings.findIdx? (fun binding => binding.selector = selector) = some place
  held : source.bindings[place]? = some binding
  located : binding.sheet = sheet
  present : source.workbook.sheets[sheet]? = some grid
  anchored : Region.Anchored block ⟨⟨grid, binding.cache⟩, binding.span⟩

variable {source : DataSource} {selector : Selector} {place sheet : Nat} {block : Span}

def fasteningFrame (selector : Selector) (place sheet : Nat) (block : Span) : Frame DataSource where
  related before after := ∀ grid, before.workbook.sheets[sheet]? = some grid →
    ∃ grown, after.workbook.sheets[sheet]? = some grown ∧ grid.GrowsTo grown ∧
      (grown.IsExact → (∃ binding, before.Fastened selector place sheet block binding grid) →
        ∃ binding, after.Fastened selector place sheet block binding grown)
  refl source grid present := ⟨grid, present, .refl grid, fun _ fastened => fastened⟩
  trans := by
    intro first second third early late grid present
    obtain ⟨between, here, growsEarly, holdsEarly⟩ := early grid present
    obtain ⟨grown, there, growsLate, holdsLate⟩ := late between here
    refine ⟨grown, there, growsEarly.trans growsLate, fun exact fastened => ?_⟩
    exact holdsLate exact (holdsEarly (growsLate.exact exact) fastened)

theorem fastened_of_followed {before after : DataSource}
    (followed : (followingFrame Grid.growingFrame (Region.anchoringFrame block) selector place
      sheet).related before after) :
    (fasteningFrame selector place sheet block).related before after := by
  intro grid present
  obtain ⟨grown, stored, grows, follows⟩ := followed grid present
  refine ⟨grown, stored, grows, ?_⟩
  rintro exact ⟨binding, fastened⟩
  obtain ⟨next, placed, -, related⟩ :=
    follows binding ⟨fastened.found, fastened.held, fastened.located⟩
  exact ⟨next, placed.found, placed.held, placed.located, stored,
    related.2 exact fastened.anchored⟩

theorem event_within (event : WorkbookEvent) : event.event.Within Grid.growingFrame := by
  cases event with
  | connect other => trivial
  | ask other request => trivial
  | elsewhere position repository cache span request =>
      intro grid after updated
      obtain rfl := Except.ok.inj updated
      exact (Region.anchoring_relies span).changes repository request ⟨⟨grid, cache⟩, span⟩
  | change position update => exact fun _ _ => GridChange.grows

theorem after_all_fastens (events : List WorkbookEvent) (source : DataSource) :
    (fasteningFrame selector place sheet block).related source
      (source.afterAll (events.map WorkbookEvent.event)) := by
  refine fastened_of_followed (followed_after_all (Region.anchoring_relies block) ?_ source)
  intro event member
  obtain ⟨same, -, rfl⟩ := List.mem_map.1 member
  exact event_within same

def ReachesBottom (source : DataSource) (selector : Selector) (place : Nat) : Prop :=
  ∃ binding region, Access source selector source place binding region ∧ region.AtBottom

def IsExactOn (source : DataSource) (sheet : Nat) : Prop :=
  ∀ grid, source.workbook.sheets[sheet]? = some grid → grid.IsExact

theorem reaches_bottom {connected final : DataSource} {binding : Binding} {region : Region}
    (access : Access source selector connected place binding region) {α : Type}
    {action : Repository → Action Region α} {value : α}
    (ran : run selector action source = .ok value final) (exact : final.IsExactOn binding.sheet)
    (settles : ∀ after, action binding.repository region = .ok value after →
      after.sheet.grid.IsExact → after.AtBottom) : final.ReachesBottom selector place := by
  obtain ⟨after, served, rfl⟩ := (run_of_access access).1 ran
  have again := access_again access after
  have stored := grid_of_access again
  exact ⟨_, after, again, settles after served (exact _ stored)⟩

variable {opened : DataSource} {binding : Binding} {grid : Grid}

theorem served_in_place {α : Type} {action : Repository → Action Region α} {value : α}
    {region : Region} (access : Access source selector source place binding region)
    (served : action binding.repository region = .ok value region) :
    run selector action source = .ok value source := by
  refine (run_of_access access).2 ⟨region, served, ?_⟩
  rw [put_unchanged access.held access.present]

/-- A repository in use, compared to the moment when it was opened: its block has the corner and
the width of then and lies within the grid, so that searches succeed and leave everything as it is.
An insertion, a deletion that finds something and a sort leave it reaching the last row. -/
structure StaysInPlace (state : DataSource) (selector : Selector) (place : Nat)
    (opened held : Binding) (region : Region) : Prop where
  access : state.Access selector state place held region
  sheet : held.sheet = opened.sheet
  row : region.span.row = opened.span.row
  column : region.span.column = opened.span.column
  columns : region.span.columns = opened.span.columns
  inside : region.sheet.grid.checkBounds region.span = .ok ()
  finds : ∀ filter, ∃ found,
    run selector (fun repository => repository.find filter) state = .ok found state
  findsOne : ∀ filter, ∃ found,
    run selector (fun repository => repository.findOne filter) state = .ok found state
  inserted : ∀ entities final, entities ≠ [] →
    run selector (fun repository => repository.insertMany entities) state = .ok () final →
      final.IsExactOn opened.sheet → final.ReachesBottom selector place
  deleted : ∀ filter firstOnly deletion final,
    run selector (fun repository => repository.delete filter firstOnly) state =
      .ok deletion final → deletion.deleted = true →
      final.IsExactOn opened.sheet → final.ReachesBottom selector place
  sorted : ∀ field ascending final,
    run selector (fun repository => repository.sort field ascending) state = .ok () final →
      final.IsExactOn opened.sheet → final.ReachesBottom selector place

/-- A repository that is opened without a word on where its data lies stays in place from then on,
however repositories are used and grids are changed. -/
theorem span_throughout (opens : OpensUnplaced source selector opened place binding grid)
    (events : List WorkbookEvent) {state : DataSource}
    (reached : opened.afterAll (events.map WorkbookEvent.event) = state)
    (exact : state.IsExactOn binding.sheet) :
    ∃ held region, state.StaysInPlace selector place binding held region := by
  have access := access_of_unplaced opens
  have present : opened.workbook.sheets[binding.sheet]? = some grid := grid_of_access access
  obtain ⟨grown, stored, grows, holds⟩ := after_all_fastens events opened grid present
  rw [reached] at stored holds
  have exactGrown := exact grown stored
  have fastened : opened.Fastened selector place binding.sheet binding.span binding grid :=
    ⟨place_of_connect access.connects, access.held, rfl, present, rfl, rfl, rfl,
      readable_of_opens opens (grows.exact exactGrown)⟩
  obtain ⟨held, found, listed, located, -, anchored⟩ := holds exactGrown ⟨binding, fastened⟩
  have again : state.Access selector state place held ⟨⟨grown, held.cache⟩, held.span⟩ := by
    refine ⟨connect_again found, listed, ?_⟩
    rw [region?, located, stored]
    rfl
  refine ⟨held, _, again, located, anchored.row, anchored.column, anchored.columns,
    anchored.readable, ?_, ?_, ?_, ?_, ?_⟩
  · intro filter
    obtain ⟨entities, finds⟩ := Repository.find_of_readable filter anchored.readable
    exact ⟨entities, served_in_place again finds⟩
  · intro filter
    obtain ⟨entity, finds⟩ := Repository.find_one_of_readable filter anchored.readable
    exact ⟨entity, served_in_place again finds⟩
  · intro entities final nonempty inserts exactAfter
    rw [← located] at exactAfter
    exact reaches_bottom again inserts exactAfter fun _ => Repository.at_bottom_of_insert nonempty
  · intro filter firstOnly deletion final deletes matched exactAfter
    rw [← located] at exactAfter
    exact reaches_bottom again deletes exactAfter fun _ served =>
      Repository.at_bottom_of_delete served matched
  · intro field ascending final sorts exactAfter
    rw [← located] at exactAfter
    exact reaches_bottom again sorts exactAfter fun _ => Region.at_bottom_of_sort

theorem titled_people_stay_in_place :
    ∃ cache, OpensUnplaced (headedSource titledPeople ⟨1, 1, 1, 1⟩) (.name "people")
        (headedPeople titledPeople ⟨1, 1, 1, 1⟩ cache) 0
        (headedBinding ⟨1, 1, 1, 1⟩ titledPeople.maxRows cache) titledPeople ∧
      ∃ state, (headedPeople titledPeople ⟨1, 1, 1, 1⟩ cache).afterAll
          ([WorkbookEvent.change 0 (.write ⟨3, 1, 1, 1⟩ [[.string "Bob"]])].map
            WorkbookEvent.event) = state ∧
        state.IsExactOn 0 ∧
        ∃ held region, state.StaysInPlace (.name "people") 0
          (headedBinding ⟨1, 1, 1, 1⟩ titledPeople.maxRows cache) held region := by
  obtain ⟨cache, opens⟩ := headed_source_opens titledPeople ⟨1, 1, 1, 1⟩ rfl
    ⟨by decide, by decide⟩ (by decide) rfl (by decide)
  have unplaced : OpensUnplaced (headedSource titledPeople ⟨1, 1, 1, 1⟩) (.name "people")
      (headedPeople titledPeople ⟨1, 1, 1, 1⟩ cache) 0
      (headedBinding ⟨1, 1, 1, 1⟩ titledPeople.maxRows cache) titledPeople :=
    ⟨opens.missing, opens.connects, opens.held, opens.present, headedSchema ⟨1, 1, 1, 1⟩, rfl, rfl⟩
  have exact : ((headedPeople titledPeople ⟨1, 1, 1, 1⟩ cache).afterAll
      ([WorkbookEvent.change 0 (.write ⟨3, 1, 1, 1⟩ [[.string "Bob"]])].map
        WorkbookEvent.event)).IsExactOn 0 := by
    intro grid held
    obtain rfl := Option.some.inj held
    exact ⟨by decide, by decide⟩
  exact ⟨cache, unplaced, _, rfl, exact, span_throughout unplaced _ rfl exact⟩

end DataSource

end GridStore
