import GridStore.DataSource
import GridStore.Proofs.Scan

/-!
Runs of a data source: repositories are opened, used and shared in any order, and grids change
behind their backs. Whatever happens, a repository keeps the columns and the mapper of its schema.
-/

set_option autoImplicit false

namespace GridStore

inductive Request where
  | find (filter : Filter)
  | findOne (filter : Filter)
  | findAndDelete (filter : Filter)
  | deleteOne (filter : Filter)
  | insert (entity : Entity)
  | insertMany (entities : List Entity)
  | sort (field : Option String) (ascending : Option Bool)

/-- Serves a request. Only what it does to the region matters to those that come after it. -/
def Request.serve (request : Request) (repository : Repository) : Action Region Unit :=
  match request with
  | .find filter => do discard <| repository.find filter
  | .findOne filter => do discard <| repository.findOne filter
  | .findAndDelete filter => do discard <| repository.findAndDelete filter
  | .deleteOne filter => do discard <| repository.deleteOne filter
  | .insert entity => repository.insert entity
  | .insertMany entities => repository.insertMany entities
  | .sort field ascending => repository.sort field ascending

/-- One thing that happens to a data source. A grid may change in any way at all. -/
inductive Event where
  | connect (selector : Selector)
  | ask (selector : Selector) (request : Request)
  | change (position : Nat) (update : Grid → Except GridError Grid)

def Event.run : Event → Action DataSource Unit
  | .connect selector => do discard <| DataSource.connect selector
  | .ask selector request => DataSource.run selector request.serve
  | .change position update => DataSource.changeGrid position update

/-- The state that an action leaves behind, whether it succeeds or not. -/
def Action.final {σ α : Type} (action : Action σ α) (state : σ) : σ :=
  match action state with
  | .ok _ final => final
  | .error _ final => final

namespace DataSource

def after (source : DataSource) (event : Event) : DataSource := event.run.final source

def afterAll (source : DataSource) (events : List Event) : DataSource := events.foldl after source

def Reachable (source : DataSource) : Prop :=
  ∃ workbook options start events, ofOptions workbook options = .ok start ∧
    source = start.afterAll events

/-- Every repository has the mapper of one of the schemas, for the columns found when it was
opened. -/
def WellBound (source : DataSource) : Prop :=
  ∀ binding ∈ source.bindings, ∃ schema ∈ source.schemas, binding.selector = schema.selector ∧
    ∃ map, binding.repository = ⟨map, schema.mapper map⟩

variable {source : DataSource}

theorem final_of_ok {σ α : Type} {action : Action σ α} {state final : σ} {value : α}
    (ran : action state = .ok value final) : action.final state = final := by
  rw [Action.final, ran]

theorem final_of_error {σ α : Type} {action : Action σ α} {state final : σ} {error : Error}
    (failed : action state = .error error final) : action.final state = final := by
  rw [Action.final, failed]

/-- A repository is opened on the sheet that its schema selects, in a fresh view of it. -/
theorem open_ok_iff {schema : Schema} {binding : Binding} :
    source.open? schema = .ok binding ↔
      ∃ sheet grid map span view, source.workbook.select schema.selector = .ok (sheet, grid) ∧
        schema.bind { grid } = .ok (map, span) view ∧
        binding = { selector := schema.selector, repository := ⟨map, schema.mapper map⟩, sheet
                    cache := view.cache, span } := by
  rw [open?]
  constructor
  · intro opened
    cases selected : source.workbook.select schema.selector with
    | error error =>
        rw [selected] at opened
        cases opened
    | ok place =>
        rw [selected] at opened
        obtain ⟨sheet, grid⟩ := place
        simp only [bind, Except.bind] at opened
        cases bound : schema.bind { grid } with
        | error error view =>
            rw [bound] at opened
            cases opened
        | ok found view =>
            rw [bound] at opened
            cases opened
            exact ⟨sheet, grid, _, _, view, rfl, bound, rfl⟩
  · rintro ⟨sheet, grid, map, span, view, selected, bound, rfl⟩
    rw [selected]
    simp only [bind, Except.bind, bound]
    rfl

theorem well_bound_of_opened {schema : Schema} {binding : Binding}
    (opened : source.open? schema = .ok binding) :
    binding.selector = schema.selector ∧ ∃ map, binding.repository = ⟨map, schema.mapper map⟩ := by
  obtain ⟨sheet, grid, map, span, view, -, -, rfl⟩ := open_ok_iff.1 opened
  exact ⟨rfl, map, rfl⟩

/-- Every repository is one that was opened for one of the schemas, whatever the workbook was like
at that time. -/
def AllOpened (source : DataSource) : Prop :=
  ∀ binding ∈ source.bindings, ∃ schema ∈ source.schemas,
    ∃ (earlier : DataSource) (first : Binding), earlier.open? schema = .ok first ∧
      binding.selector = first.selector ∧ binding.repository = first.repository

theorem well_bound_of_all_opened (opened : source.AllOpened) : source.WellBound := by
  intro binding member
  obtain ⟨schema, listed, earlier, first, began, named, kept⟩ := opened binding member
  obtain ⟨selector, map, repository⟩ := well_bound_of_opened began
  exact ⟨schema, listed, named.trans selector, map, kept.trans repository⟩

theorem final_discard {σ α : Type} (action : Action σ α) (state : σ) :
    (discard action : Action σ PUnit).final state = action.final state := by
  have mapped : (discard action : Action σ PUnit) state =
      EStateM.map (fun _ => PUnit.unit) action state := rfl
  rw [Action.final, Action.final, mapped, EStateM.map]
  cases action state <;> rfl

/-- Connecting finds a repository, opens one more, or fails and changes nothing. -/
theorem connect_cases (selector : Selector) (source : DataSource) :
    (∃ place, source.bindings.findIdx? (fun binding => binding.selector = selector) = some place ∧
        connect selector source = .ok place source) ∨
      (∃ error, connect selector source = .error error source) ∨
        ∃ schema ∈ source.schemas, ∃ binding,
          source.bindings.findIdx? (fun binding => binding.selector = selector) = none ∧
          schema.selector = selector ∧ source.open? schema = .ok binding ∧
          connect selector source = .ok source.bindings.length
            { source with bindings := source.bindings ++ [binding] } := by
  rw [connect, Action.bind_of_ok Action.get_apply]
  cases found : source.bindings.findIdx? fun binding => binding.selector = selector with
  | some place => exact Or.inl ⟨place, rfl, rfl⟩
  | none =>
      cases described : source.schemas.find? fun schema => schema.selector = selector with
      | none => exact Or.inr (Or.inl ⟨_, rfl⟩)
      | some schema =>
          have member := List.mem_of_find?_eq_some described
          have named : schema.selector = selector := by simpa using List.find?_some described
          cases opened : source.open? schema with
          | error error =>
              simp only [opened]
              exact Or.inr (Or.inl ⟨_, rfl⟩)
          | ok binding =>
              simp only [opened]
              exact Or.inr (Or.inr ⟨schema, member, binding, trivial, named, opened, rfl⟩)

/-- Connecting leaves everything as it is, but for a repository that it may add to the others. -/
theorem connect_adds (selector : Selector) (source : DataSource) :
    ∃ added, (connect selector).final source =
      { source with bindings := source.bindings ++ added } := by
  rcases connect_cases selector source with
    ⟨place, -, connected⟩ | ⟨error, failed⟩ | ⟨schema, -, opened, -, -, -, connected⟩
  · exact ⟨[], by rw [final_of_ok connected, List.append_nil]⟩
  · exact ⟨[], by rw [final_of_error failed, List.append_nil]⟩
  · exact ⟨[opened], final_of_ok connected⟩

theorem workbook_after_connect (selector : Selector) (source : DataSource) :
    ((connect selector).final source).workbook = source.workbook := by
  obtain ⟨added, connected⟩ := connect_adds selector source
  rw [connected]

theorem schemas_after_connect (selector : Selector) (source : DataSource) :
    ((connect selector).final source).schemas = source.schemas := by
  obtain ⟨added, connected⟩ := connect_adds selector source
  rw [connected]

theorem all_opened_connect (opened : source.AllOpened) (selector : Selector) :
    ((connect selector).final source).AllOpened := by
  rcases connect_cases selector source with
    ⟨place, -, connected⟩ | ⟨error, failed⟩ | ⟨schema, listed, binding, -, -, began, connected⟩
  · rw [final_of_ok connected]
    exact opened
  · rw [final_of_error failed]
    exact opened
  · rw [final_of_ok connected]
    intro other member
    rcases List.mem_append.1 member with old | new
    · exact opened other old
    · obtain rfl := List.mem_singleton.1 new
      exact ⟨schema, listed, source, other, began, rfl, rfl⟩

theorem all_opened_put (opened : source.AllOpened) {place : Nat} {binding : Binding}
    (held : source.bindings[place]? = some binding) (region : Region) :
    (source.putRegion place binding region).AllOpened := by
  intro other member
  rcases List.mem_or_eq_of_mem_set member with old | rfl
  · exact opened other old
  · exact opened binding (List.mem_of_getElem? held)

/-- The state after working with a repository, whether that succeeded or not. -/
theorem final_run_cases {α : Type} (selector : Selector)
    (action : Repository → Action Region α) (source : DataSource) :
    (run selector action).final source = (connect selector).final source ∨
      ∃ place binding region,
        ((connect selector).final source).bindings[place]? = some binding ∧
        (run selector action).final source =
          ((connect selector).final source).putRegion place binding region := by
  cases connected : connect selector source with
  | error error middle =>
      rw [run, final_of_error (Action.bind_of_error connected), final_of_error connected]
      exact Or.inl rfl
  | ok place middle =>
      rw [final_of_ok connected, Action.final, run, Action.bind_of_ok connected,
        Action.bind_of_ok Action.get_apply]
      cases held : middle.bindings[place]? with
      | none => exact Or.inl rfl
      | some binding =>
          cases found : middle.region? binding with
          | none =>
              simp only [found]
              exact Or.inl rfl
          | some region =>
              simp only [found]
              refine Or.inr ⟨place, binding, (action binding.repository).final region, held, ?_⟩
              rw [Action.final]
              cases action binding.repository region with
              | ok value region => rfl
              | error error region => rfl

theorem all_opened_run {α : Type} (opened : source.AllOpened) (selector : Selector)
    (action : Repository → Action Region α) : ((run selector action).final source).AllOpened := by
  have connected := all_opened_connect opened selector
  rcases final_run_cases selector action source with same | ⟨place, binding, region, held, put⟩
  · rw [same]
    exact connected
  · rw [put]
    exact all_opened_put connected held region

theorem change_grid_cases (position : Nat) (update : Grid → Except GridError Grid)
    (source : DataSource) :
    source.after (.change position update) = source ∨
      ∃ grid after, source.workbook.sheets[position]? = some grid ∧ update grid = .ok after ∧
        source.after (.change position update) =
          { source with workbook := source.workbook.replace position after } := by
  rw [after, Event.run, Action.final, changeGrid, Action.bind_of_ok Action.get_apply]
  cases source.workbook.sheets[position]? with
  | none => exact Or.inl rfl
  | some grid =>
      cases updated : update grid with
      | error cause =>
          simp only [updated]
          exact Or.inl rfl
      | ok after =>
          simp only [updated]
          exact Or.inr ⟨grid, after, rfl, updated, rfl⟩

theorem all_opened_change (opened : source.AllOpened) (position : Nat)
    (update : Grid → Except GridError Grid) :
    ((changeGrid position update).final source).AllOpened := by
  show (source.after (.change position update)).AllOpened
  rcases change_grid_cases position update source with same | ⟨grid, after, -, -, changed⟩
  · rw [same]
    exact opened
  · rw [changed]
    exact opened

/-- One event changes neither the schemas nor which of them a repository was opened for. -/
theorem all_opened_after (opened : source.AllOpened) (event : Event) :
    (source.after event).AllOpened := by
  cases event with
  | connect selector =>
      rw [after, Event.run, final_discard]
      exact all_opened_connect opened selector
  | ask selector request => exact all_opened_run opened selector request.serve
  | change position update => exact all_opened_change opened position update

theorem all_opened_after_all (opened : source.AllOpened) (events : List Event) :
    (source.afterAll events).AllOpened := by
  induction events generalizing source with
  | nil => exact opened
  | cons event rest induction => exact induction (all_opened_after opened event)

theorem of_options_ok_iff {workbook : Workbook} {options : SourceOptions} :
    ofOptions workbook options = .ok source ↔
      ∃ schemas, options.entities.foldlM addSchema [] = .ok schemas ∧
        workbook.checkId options.id = .ok () ∧ source = ⟨workbook, schemas, []⟩ := by
  rw [ofOptions]
  cases options.entities.foldlM addSchema [] with
  | error cause => exact iff_of_false nofun fun ⟨_, ended, _⟩ => nomatch ended
  | ok schemas =>
      cases workbook.checkId options.id with
      | error cause => exact iff_of_false nofun fun ⟨_, _, ended, _⟩ => nomatch ended
      | ok nothing =>
          constructor
          · rintro ⟨⟩
            exact ⟨schemas, rfl, rfl, rfl⟩
          · rintro ⟨_, ⟨⟩, -, rfl⟩
            rfl

theorem all_opened_of_options {workbook : Workbook} {options : SourceOptions}
    (started : ofOptions workbook options = .ok source) : source.AllOpened := by
  obtain ⟨schemas, -, -, rfl⟩ := of_options_ok_iff.1 started
  exact fun binding member => nomatch member

theorem all_opened_of_reachable (reachable : source.Reachable) : source.AllOpened := by
  obtain ⟨workbook, options, start, events, started, rfl⟩ := reachable
  exact all_opened_after_all (all_opened_of_options started) events

theorem well_bound_of_reachable (reachable : source.Reachable) : source.WellBound :=
  well_bound_of_all_opened (all_opened_of_reachable reachable)

theorem steady_of_reachable (reachable : source.Reachable) {binding : Binding}
    (opened : binding ∈ source.bindings) : binding.repository.mapper.IsSteady := by
  obtain ⟨schema, -, -, map, repository⟩ := well_bound_of_reachable reachable binding opened
  rw [repository]
  exact fun row index => rfl

theorem reachable_after (reachable : source.Reachable) (event : Event) :
    (source.after event).Reachable := by
  obtain ⟨workbook, options, start, events, started, rfl⟩ := reachable
  refine ⟨workbook, options, start, events ++ [event], started, ?_⟩
  simp only [afterAll, List.foldl_append, List.foldl_cons, List.foldl_nil]

/-- Connecting to an entity leads to its repository, with its region in the present state of the
sheet. -/
structure Access (source : DataSource) (selector : Selector) (connected : DataSource)
    (place : Nat) (binding : Binding) (region : Region) : Prop where
  connects : connect selector source = .ok place connected
  held : connected.bindings[place]? = some binding
  present : connected.region? binding = some region

theorem run_ok_iff {α : Type} {selector : Selector} {action : Repository → Action Region α}
    {value : α} {final : DataSource} :
    run selector action source = .ok value final ↔
      ∃ connected place binding region after,
        Access source selector connected place binding region ∧
        action binding.repository region = .ok value after ∧
        final = connected.putRegion place binding after := by
  rw [run, Action.bind_ok_iff]
  constructor
  · rintro ⟨place, connected, connects, ran⟩
    rw [Action.bind_of_ok Action.get_apply] at ran
    cases held : connected.bindings[place]? with
    | none =>
        rw [held] at ran
        cases ran
    | some binding =>
        rw [held] at ran
        cases present : connected.region? binding with
        | none =>
            simp only [present] at ran
            cases ran
        | some region =>
            simp only [present] at ran
            cases served : action binding.repository region with
            | error error after =>
                simp only [served] at ran
                cases ran
            | ok result after =>
                simp only [served] at ran
                cases ran
                exact ⟨connected, place, binding, region, after, ⟨connects, held, present⟩, served,
                  rfl⟩
  · rintro ⟨connected, place, binding, region, after, ⟨connects, held, present⟩, served, rfl⟩
    refine ⟨place, connected, connects, ?_⟩
    rw [Action.bind_of_ok Action.get_apply, held]
    simp only [present, served]
    rfl

variable {selector : Selector} {connected : DataSource} {place : Nat} {binding : Binding}
  {region : Region}

theorem find_place (selector : Selector) (bindings : List Binding) :
    bindings.findIdx? (fun binding => binding.selector = selector) =
      (bindings.map Binding.selector).findIdx? (fun other => other = selector) := by
  rw [List.findIdx?_map]
  rfl

theorem connect_again
    (found : source.bindings.findIdx? (fun binding => binding.selector = selector) = some place) :
    connect selector source = .ok place source := by
  rw [connect, Action.bind_of_ok Action.get_apply]
  simp only [found]
  rfl

theorem place_of_connect (connects : connect selector source = .ok place connected) :
    connected.bindings.findIdx? (fun binding => binding.selector = selector) = some place := by
  rcases connect_cases selector source with
    ⟨other, found, ran⟩ | ⟨error, failed⟩ | ⟨schema, listed, binding, missing, named, opened, ran⟩
  · rw [connects] at ran
    cases ran
    exact found
  · rw [connects] at failed
    cases failed
  · rw [connects] at ran
    cases ran
    have selected : binding.selector = selector := by
      rw [(well_bound_of_opened opened).1]
      exact named
    rw [List.findIdx?_append, missing]
    simp [selected]

theorem run_of_access {α : Type} {action : Repository → Action Region α} {value : α}
    {final : DataSource} (access : Access source selector connected place binding region) :
    run selector action source = .ok value final ↔
      ∃ after, action binding.repository region = .ok value after ∧
        final = connected.putRegion place binding after := by
  rw [run_ok_iff]
  constructor
  · rintro ⟨connected', place', binding', region', after, other, served, rfl⟩
    have connects := other.connects
    rw [access.connects] at connects
    obtain ⟨rfl, rfl⟩ := EStateM.Result.ok.inj connects
    have held := other.held
    rw [access.held] at held
    obtain rfl := Option.some.inj held
    have present := other.present
    rw [access.present] at present
    obtain rfl := Option.some.inj present
    exact ⟨after, served, rfl⟩
  · rintro ⟨after, served, rfl⟩
    exact ⟨connected, place, binding, region, after, access, served, rfl⟩

theorem final_run_of_access {α : Type} {action : Repository → Action Region α}
    (access : Access source selector connected place binding region) :
    (run selector action).final source =
      connected.putRegion place binding ((action binding.repository).final region) := by
  rw [Action.final, run, Action.bind_of_ok access.connects, Action.bind_of_ok Action.get_apply]
  simp only [access.held, access.present]
  rw [Action.final]
  cases action binding.repository region with
  | ok value after => rfl
  | error error after => rfl

/-- A request comes to connecting alone, unless it gets a region to work with. -/
theorem after_ask_cases (selector : Selector) (request : Request) (source : DataSource) :
    source.after (.ask selector request) = (connect selector).final source ∨
      ∃ connected place binding region, Access source selector connected place binding region ∧
        source.after (.ask selector request) =
          connected.putRegion place binding ((request.serve binding.repository).final region) := by
  cases connects : connect selector source with
  | error error middle =>
      rw [after, Event.run, run, final_of_error (Action.bind_of_error connects),
        final_of_error connects]
      exact Or.inl rfl
  | ok place connected =>
      cases held : connected.bindings[place]? with
      | none =>
          rw [after, Event.run, Action.final, run, Action.bind_of_ok connects,
            Action.bind_of_ok Action.get_apply, held, final_of_ok connects]
          exact Or.inl rfl
      | some binding =>
          cases present : connected.region? binding with
          | none =>
              rw [after, Event.run, Action.final, run, Action.bind_of_ok connects,
                Action.bind_of_ok Action.get_apply, final_of_ok connects]
              simp only [held, present]
              exact Or.inl rfl
          | some region =>
              have access : Access source selector connected place binding region :=
                ⟨connects, held, present⟩
              exact Or.inr ⟨connected, place, binding, region, access, final_run_of_access access⟩

theorem workbook_of_access (access : Access source selector connected place binding region) :
    connected.workbook = source.workbook := by
  have unchanged := workbook_after_connect selector source
  rwa [final_of_ok access.connects] at unchanged

theorem steady_of_access (reachable : source.Reachable)
    (access : Access source selector connected place binding region) :
    binding.repository.mapper.IsSteady := by
  have opened : connected = source.after (.connect selector) := by
    rw [after, Event.run, final_discard, final_of_ok access.connects]
  have member := List.mem_of_getElem? access.held
  rw [opened] at member
  exact steady_of_reachable (reachable_after reachable _) member

theorem grid_of_access (access : Access source selector connected place binding region) :
    source.workbook.sheets[binding.sheet]? = some region.sheet.grid := by
  obtain ⟨grid, found, same⟩ := Option.map_eq_some_iff.1 access.present
  rw [workbook_of_access access] at found
  rw [found, ← same]

theorem find_after_put (selector : Selector) (held : source.bindings[place]? = some binding)
    (after : Region) :
    (source.putRegion place binding after).bindings.findIdx?
        (fun binding => binding.selector = selector) =
      source.bindings.findIdx? (fun binding => binding.selector = selector) := by
  obtain ⟨below, here⟩ := List.getElem?_eq_some_iff.1 held
  have selectors : (source.putRegion place binding after).bindings.map Binding.selector =
      source.bindings.map Binding.selector := by
    have listed : place < (source.bindings.map Binding.selector).length := by
      rwa [List.length_map]
    have same : (source.bindings.map Binding.selector)[place] = binding.selector := by
      rw [List.getElem_map, here]
    rw [putRegion, List.map_set]
    show (source.bindings.map Binding.selector).set place binding.selector = _
    rw [← same, List.set_getElem_self]
  rw [find_place, selectors, ← find_place]

theorem access_again (access : Access source selector connected place binding region)
    (after : Region) :
    Access (connected.putRegion place binding after) selector
      (connected.putRegion place binding after) place
      { binding with cache := after.sheet.cache, span := after.span } after := by
  obtain ⟨below, -⟩ := List.getElem?_eq_some_iff.1 access.held
  have found : (connected.putRegion place binding after).bindings.findIdx?
      (fun binding => binding.selector = selector) = some place := by
    rw [find_after_put selector access.held]
    exact place_of_connect access.connects
  obtain ⟨grid, present, -⟩ := Option.map_eq_some_iff.1 access.present
  refine ⟨connect_again found, List.getElem?_set_self below, ?_⟩
  have stored : (connected.putRegion place binding after).workbook.sheets[binding.sheet]? =
      some after.sheet.grid := List.getElem?_set_self (List.getElem?_eq_some_iff.1 present).1
  rw [region?, stored]
  rfl

theorem put_unchanged (held : source.bindings[place]? = some binding)
    (present : source.region? binding = some region) :
    source.putRegion place binding region = source := by
  obtain ⟨grid, stored, rfl⟩ := Option.map_eq_some_iff.1 present
  obtain ⟨below, here⟩ := List.getElem?_eq_some_iff.1 held
  obtain ⟨listed, there⟩ := List.getElem?_eq_some_iff.1 stored
  have sheets : source.workbook.sheets.set binding.sheet grid = source.workbook.sheets := by
    rw [← there, List.set_getElem_self]
  have bindings : source.bindings.set place binding = source.bindings := by
    rw [← here, List.set_getElem_self]
  simp only [putRegion, Workbook.replace, sheets, bindings]

end DataSource

section People

/-! People on the only sheet of a workbook, for whom a repository has been opened on a block. -/

def peopleSchema (span : Span) : Schema where
  selector := .name "people"
  ranges := { data := some (.ofResolver fun _ => .ok span) }
  columns := [("name", ⟨.position 0, false, {}⟩)]
  transform := {}

def peopleOptions (span : Span) : SchemaOptions where
  selector := some (.name "people")
  ranges := (peopleSchema span).ranges
  columns := [("name", .position 0)]

def peopleBinding (span : Span) : Binding where
  selector := .name "people"
  repository := ⟨⟨[("name", 0)]⟩, (peopleSchema span).mapper ⟨[("name", 0)]⟩⟩
  sheet := 0
  cache := .empty
  span := span

def peopleSource (grid : Grid) (span : Span) : DataSource :=
  ⟨⟨"book", [grid]⟩, [peopleSchema span], [peopleBinding span]⟩

def twoPeople : DataSource :=
  peopleSource (.ofRows "people" [[.string "Ann"], [.string "Bob"]]) ⟨1, 1, 2, 1⟩

theorem two_people_reachable : twoPeople.Reachable :=
  ⟨twoPeople.workbook, { entities := [peopleOptions ⟨1, 1, 2, 1⟩] },
    ⟨twoPeople.workbook, twoPeople.schemas, []⟩, [.connect (.name "people")], rfl, rfl⟩

end People

end GridStore
