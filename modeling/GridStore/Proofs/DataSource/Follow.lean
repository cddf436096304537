import GridStore.Proofs.Action.Frame
import GridStore.Proofs.DataSource.Run

/-!
Following a repository through everything that happens to its data source. What its own requests
keep of its region is kept throughout, provided that it bears what requests to other repositories,
and changes behind its back, do to the grid.
-/

set_option autoImplicit false

namespace GridStore

/-- Requests change grids as others rely on, and they stay within a frame of the region that bears
such changes. -/
structure Relies (rely : Frame Grid) (frame : Frame Region) : Prop where
  changes : ∀ (repository : Repository) (request : Request) (region : Region),
    rely.related region.sheet.grid ((request.serve repository).final region).sheet.grid
  serves : ∀ (repository : Repository) (request : Request) (region : Region),
    frame.related region ((request.serve repository).final region)
  bears : ∀ (region : Region) (grid : Grid), rely.related region.sheet.grid grid →
    frame.related region ⟨⟨grid, region.sheet.cache⟩, region.span⟩

def Event.Within (rely : Frame Grid) : Event → Prop
  | .change _ update => ∀ grid after, update grid = .ok after → rely.related grid after
  | _ => True

namespace DataSource

structure Placed (source : DataSource) (selector : Selector) (place sheet : Nat)
    (binding : Binding) : Prop where
  found : source.bindings.findIdx? (fun binding => binding.selector = selector) = some place
  held : source.bindings[place]? = some binding
  located : binding.sheet = sheet

variable {rely : Frame Grid} {frame : Frame Region} {source : DataSource} {selector : Selector}
  {place sheet : Nat}

/-- A sheet stays, with a grid that has changed as relied on, and the repository at a place keeps
what it works with, and of its region what the frame says. -/
def followingFrame (rely : Frame Grid) (frame : Frame Region) (selector : Selector)
    (place sheet : Nat) : Frame DataSource where
  related before after := ∀ grid, before.workbook.sheets[sheet]? = some grid →
    ∃ later, after.workbook.sheets[sheet]? = some later ∧ rely.related grid later ∧
      ∀ binding, before.Placed selector place sheet binding →
        ∃ next, after.Placed selector place sheet next ∧
          next.repository = binding.repository ∧
          frame.related ⟨⟨grid, binding.cache⟩, binding.span⟩ ⟨⟨later, next.cache⟩, next.span⟩
  refl source grid present :=
    ⟨grid, present, rely.refl grid, fun binding placed => ⟨binding, placed, rfl, frame.refl _⟩⟩
  trans := by
    intro first second third early late grid present
    obtain ⟨between, here, changesEarly, followsEarly⟩ := early grid present
    obtain ⟨later, there, changesLate, followsLate⟩ := late between here
    refine ⟨later, there, rely.trans changesEarly changesLate, fun binding placed => ?_⟩
    obtain ⟨middle, stays, sameEarly, relatedEarly⟩ := followsEarly binding placed
    obtain ⟨next, remains, sameLate, relatedLate⟩ := followsLate middle stays
    exact ⟨next, remains, sameLate.trans sameEarly, frame.trans relatedEarly relatedLate⟩

theorem placed_after_connect {binding : Binding}
    (placed : source.Placed selector place sheet binding) (other : Selector) :
    ((connect other).final source).Placed selector place sheet binding := by
  obtain ⟨added, connected⟩ := connect_adds other source
  rw [connected]
  obtain ⟨below, -⟩ := List.getElem?_eq_some_iff.1 placed.held
  refine ⟨?_, (List.getElem?_append_left below).trans placed.held, placed.located⟩
  rw [List.findIdx?_append, placed.found]
  rfl

theorem connect_follows (other : Selector) (source : DataSource) :
    (followingFrame rely frame selector place sheet).related source
      ((connect other).final source) := by
  intro grid present
  refine ⟨grid, ?_, rely.refl grid, fun binding placed => ?_⟩
  · rw [workbook_after_connect]
    exact present
  · exact ⟨binding, placed_after_connect placed other, rfl, frame.refl _⟩

theorem placed_beside {binding other : Binding} {position : Nat} (after : Region)
    (placed : source.Placed selector place sheet binding)
    (held : source.bindings[position]? = some other) (apart : position ≠ place) :
    (source.putRegion position other after).Placed selector place sheet binding where
  found := by
    rw [find_after_put selector held]
    exact placed.found
  held := (List.getElem?_set_ne apart).trans placed.held
  located := placed.located

theorem put_follows {position : Nat} {other : Binding} {region after : Region}
    (held : source.bindings[position]? = some other) (present : source.region? other = some region)
    (changes : rely.related region.sheet.grid after.sheet.grid)
    (serves : frame.related region after)
    (bears : ∀ region grid, rely.related region.sheet.grid grid →
      frame.related region ⟨⟨grid, region.sheet.cache⟩, region.span⟩) :
    (followingFrame rely frame selector place sheet).related source
      (source.putRegion position other after) := by
  intro grid here
  obtain ⟨otherGrid, there, rfl⟩ := Option.map_eq_some_iff.1 present
  by_cases same : other.sheet = sheet
  · subst same
    obtain rfl := Option.some.inj (here.symm.trans there)
    refine ⟨after.sheet.grid, List.getElem?_set_self (List.getElem?_eq_some_iff.1 here).1, changes,
      fun binding placed => ?_⟩
    by_cases own : position = place
    · subst own
      obtain rfl := Option.some.inj (placed.held.symm.trans held)
      refine ⟨{ binding with cache := after.sheet.cache, span := after.span }, ⟨?_, ?_, rfl⟩, rfl,
        serves⟩
      · rw [find_after_put selector held]
        exact placed.found
      · exact List.getElem?_set_self (List.getElem?_eq_some_iff.1 held).1
    · exact ⟨binding, placed_beside after placed held own, rfl, bears _ _ changes⟩
  · refine ⟨grid, (List.getElem?_set_ne same).trans here, rely.refl grid,
      fun binding placed => ?_⟩
    -- A repository on another sheet is another repository.
    have apart : position ≠ place := by
      rintro rfl
      obtain rfl := Option.some.inj (placed.held.symm.trans held)
      exact same placed.located
    exact ⟨binding, placed_beside after placed held apart, rfl, frame.refl _⟩

theorem ask_follows (relies : Relies rely frame) (other : Selector) (request : Request)
    (source : DataSource) :
    (followingFrame rely frame selector place sheet).related source
      (source.after (.ask other request)) := by
  have connects : (followingFrame rely frame selector place sheet).related source
      ((connect other).final source) := connect_follows other source
  rcases after_ask_cases other request source with
    same | ⟨connected, position, binding, region, access, put⟩
  · rw [same]
    exact connects
  · rw [final_of_ok access.connects] at connects
    rw [put]
    exact Frame.trans _ connects (put_follows access.held access.present
      (relies.changes _ request region) (relies.serves _ request region) relies.bears)

theorem change_follows (relies : Relies rely frame) (position : Nat)
    {update : Grid → Except GridError Grid}
    (within : ∀ grid after, update grid = .ok after → rely.related grid after)
    (source : DataSource) :
    (followingFrame rely frame selector place sheet).related source
      (source.after (.change position update)) := by
  rcases change_grid_cases position update source with
    same | ⟨grid, after, held, updated, changed⟩
  · rw [same]
    exact Frame.refl _ source
  · rw [changed]
    intro here present
    by_cases own : position = sheet
    · subst own
      obtain rfl := Option.some.inj (present.symm.trans held)
      have changes := within _ _ updated
      refine ⟨after, List.getElem?_set_self (List.getElem?_eq_some_iff.1 present).1, changes,
        fun binding placed => ?_⟩
      exact ⟨binding, ⟨placed.found, placed.held, placed.located⟩, rfl, relies.bears _ _ changes⟩
    · refine ⟨here, (List.getElem?_set_ne own).trans present, rely.refl here,
        fun binding placed => ?_⟩
      exact ⟨binding, ⟨placed.found, placed.held, placed.located⟩, rfl, frame.refl _⟩

theorem followed_after (relies : Relies rely frame) {event : Event} (within : event.Within rely)
    (source : DataSource) :
    (followingFrame rely frame selector place sheet).related source (source.after event) := by
  cases event with
  | connect other =>
      rw [after, Event.run, final_discard]
      exact connect_follows other source
  | ask other request => exact ask_follows relies other request source
  | change position update => exact change_follows relies position within source

theorem followed_after_all (relies : Relies rely frame) {events : List Event}
    (within : ∀ event ∈ events, event.Within rely) (source : DataSource) :
    (followingFrame rely frame selector place sheet).related source (source.afterAll events) := by
  induction events generalizing source with
  | nil => exact Frame.refl _ source
  | cons event rest induction =>
      refine Frame.trans _ (followed_after relies (within event List.mem_cons_self) source) ?_
      exact induction (fun event member => within event (List.mem_cons_of_mem _ member)) _

theorem access_of_placed {binding : Binding} {grid : Grid}
    (placed : source.Placed selector place sheet binding)
    (present : source.workbook.sheets[sheet]? = some grid) :
    Access source selector source place binding ⟨⟨grid, binding.cache⟩, binding.span⟩ := by
  refine ⟨connect_again placed.found, placed.held, ?_⟩
  rw [region?, placed.located, present]
  rfl

theorem placed_of_access {connected : DataSource} {binding : Binding} {region : Region}
    (access : Access source selector connected place binding region) :
    connected.Placed selector place binding.sheet binding :=
  ⟨place_of_connect access.connects, access.held, rfl⟩

end DataSource

end GridStore
