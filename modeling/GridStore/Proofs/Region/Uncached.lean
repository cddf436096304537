import GridStore.Proofs.Address.Direct
import GridStore.Proofs.Region.Steps

/-!
Regions without a cache: the grid and the block, nothing else. Every address is resolved from what
the grid measures at that moment.

A region tracks its uncached twin. It may begin with any cache, since every call that resolves an
address measures the region again first; from then on the cache is current, up to the end of the
call.
-/

set_option autoImplicit false

namespace GridStore

structure Uncached where
  grid : Grid
  span : Span

namespace Uncached

def range (address : Address) : Action Uncached Span := do
  let state ← get
  Action.ofExcept id (address.spanAt state.grid state.grid.measure)

def change (update : Grid → Except GridError Grid) : Action Uncached Unit := do
  match update (← get).grid with
  | .ok grid => modify fun state => { state with grid }
  | .error cause => throw (.grid cause)

def remeasure : Action Uncached Unit := do
  let span := (← get).span
  let measured ← range (Region.addressToBottom span.row span.column span.columns)
  modify fun state => { state with span := measured }

def values : Action Uncached (List Row) := do
  let state ← get
  Action.ofExcept .grid (state.grid.read state.span)

def append (rows : List Row) : Action Uncached Unit := do
  match rows with
  | [] => throw (.append .noRows)
  | first :: _ =>
      remeasure
      let span := (← get).span
      if span.columns < first.length then
        throw (.append (.tooWide span.columns first.length))
      if rows.any fun row => row.length != first.length then throw (.append .unevenRows)
      let target ← range (Region.appendAddress span.column rows.length first.length)
      change fun grid => grid.write target rows
      remeasure

def sort (options : SortOptions) : Action Uncached Unit := do
  remeasure
  let span := (← get).span
  change fun grid =>
    grid.sort span (Region.sortColumn span options.column) (options.ascending.getD false)
  remeasure

def clearRows (rows : List Nat) : Action Uncached Unit := do
  if rows.isEmpty then return
  remeasure
  let span := (← get).span
  let addresses ← rows.mapM fun row => do
    return (← range (Region.rowAddress span row)).a1
  change fun grid => grid.clear addresses
  remeasure

end Uncached

namespace Region

def uncached (region : Region) : Uncached := ⟨region.sheet.grid, region.span⟩

/-- What the cache holds is what the grid measures now. -/
def IsCurrent (region : Region) : Prop := region.sheet.cache.IsFaithful region.sheet.grid

/-- The action ends as the one without a cache does; its cache is current if it succeeds. -/
structure Tracks {α : Type} (action : Action Region α) (plain : Action Uncached α)
    (region : Region) : Prop where
  on_ok : ∀ {value final}, action region = .ok value final →
    final.IsCurrent ∧ plain region.uncached = .ok value final.uncached
  on_error : ∀ {error final}, action region = .error error final →
    plain region.uncached = .error error final.uncached

section Tracks

variable {α β : Type} {region : Region} {first : Action Region α} {next : α → Action Region β}
  {plain : Action Uncached α} {others : α → Action Uncached β}

theorem tracks_of_ok {value : α} {final : Region} (ran : first region = .ok value final)
    (current : final.IsCurrent) (same : plain region.uncached = .ok value final.uncached) :
    Tracks first plain region where
  on_ok finished := by
    rw [ran] at finished
    cases finished
    exact ⟨current, same⟩
  on_error failed := by
    rw [ran] at failed
    cases failed

theorem tracks_of_error {error : Error} {final : Region} (failed : first region = .error error final)
    (same : plain region.uncached = .error error final.uncached) :
    Tracks first plain region where
  on_ok finished := by
    rw [failed] at finished
    cases finished
  on_error stopped := by
    rw [failed] at stopped
    cases stopped
    exact same

theorem tracks_pure (value : α) (current : region.IsCurrent) :
    Tracks (pure value) (pure value) region :=
  tracks_of_ok rfl current rfl

theorem tracks_throw (error : Error) :
    Tracks (throw error : Action Region α) (throw error) region :=
  tracks_of_error rfl rfl

theorem tracks_bind (starts : Tracks first plain region)
    (goes : ∀ value middle, middle.IsCurrent → Tracks (next value) (others value) middle) :
    Tracks (first >>= next) (plain >>= others) region where
  on_ok finished := by
    obtain ⟨value, middle, ran, ended⟩ := Action.bind_ok_iff.1 finished
    obtain ⟨current, same⟩ := starts.on_ok ran
    rw [Action.bind_of_ok same]
    exact (goes value middle current).on_ok ended
  on_error failed := by
    rcases Action.bind_error_iff.1 failed with stopped | ⟨value, middle, ran, stopped⟩
    · exact Action.bind_of_error (starts.on_error stopped)
    · obtain ⟨current, same⟩ := starts.on_ok ran
      rw [Action.bind_of_ok same]
      exact (goes value middle current).on_error stopped

theorem tracks_unseen {action : Action Uncached β} {value : α} {middle : Region}
    (ran : first region = .ok value middle) (same : middle.uncached = region.uncached)
    (goes : Tracks (next value) action middle) : Tracks (first >>= next) action region where
  on_ok finished := by
    rw [Action.bind_of_ok ran] at finished
    rw [← same]
    exact goes.on_ok finished
  on_error failed := by
    rw [Action.bind_of_ok ran] at failed
    rw [← same]
    exact goes.on_error failed

/-- Both see the same grid and the same block. -/
theorem tracks_get {action : Region → Action Region β} {plain : Uncached → Action Uncached β}
    (goes : Tracks (action region) (plain region.uncached) region) :
    Tracks (get >>= action) (get >>= plain) region where
  on_ok := goes.on_ok
  on_error := goes.on_error

theorem tracks_guard {condition : Prop} [Decidable condition] {error : Error}
    {rest : Unit → Action Region β} {plain : Unit → Action Uncached β}
    (goes : Tracks (rest ()) (plain ()) region) :
    Tracks (if condition then throw error >>= rest else rest ())
      (if condition then throw error >>= plain else plain ()) region := by
  by_cases holds : condition
  · simp only [if_pos holds]
    exact tracks_of_error rfl rfl
  · simp only [if_neg holds]
    exact goes

theorem tracks_map_m {ι : Type} {step : ι → Action Region β} {plain : ι → Action Uncached β}
    (follows : ∀ item middle, middle.IsCurrent → Tracks (step item) (plain item) middle)
    (items : List ι) (current : region.IsCurrent) :
    Tracks (items.mapM step) (items.mapM plain) region := by
  induction items generalizing region with
  | nil => exact tracks_pure [] current
  | cons item rest induction =>
      rw [List.mapM_cons, List.mapM_cons]
      refine tracks_bind (follows item region current) fun value middle still => ?_
      refine tracks_bind (induction still) fun others final late => ?_
      exact tracks_pure _ late

end Tracks

variable {region : Region}

theorem tracks_range (address : Address) (current : region.IsCurrent) :
    Tracks (onSheet (Sheet.range address)) (Uncached.range address) region := by
  obtain ⟨cache, still, resolved⟩ := Address.resolve_direct current address
  have plain : Uncached.range address region.uncached =
      Action.ofExcept id (address.spanAt region.sheet.grid region.sheet.grid.measure)
        region.uncached := rfl
  cases direct : address.spanAt region.sheet.grid region.sheet.grid.measure with
  | ok span =>
      rw [direct] at resolved plain
      exact tracks_of_ok (on_sheet_ok (range_ok_iff.2 ⟨cache, resolved, rfl⟩)) still plain
  | error error =>
      rw [direct] at resolved plain
      have failed : onSheet (Sheet.range address) region =
          .error error { region with sheet := { region.sheet with cache } } := by
        rw [onSheet, Sheet.range, resolved]
        rfl
      exact tracks_of_error failed plain

/-- A change empties the cache, and an empty cache is current. -/
theorem tracks_change (update : Grid → Except GridError Grid) (region : Region) :
    Tracks (onSheet (Sheet.change update)) (Uncached.change update) region := by
  have seen : Uncached.change update region.uncached =
      (match update region.sheet.grid with
        | .ok grid => modify fun state => { state with grid }
        | .error cause => throw (.grid cause) : Action Uncached Unit) region.uncached := rfl
  cases updated : update region.sheet.grid with
  | ok grid =>
      rw [updated] at seen
      have changed : onSheet (Sheet.change update) region =
          .ok () { region with sheet := ⟨grid, .empty⟩ } :=
        on_sheet_ok (change_ok_iff.2 ⟨grid, updated, rfl⟩)
      exact tracks_of_ok changed (MetricCache.faithful_empty grid) seen
  | error cause =>
      rw [updated] at seen
      exact tracks_of_error (change_refused updated) seen

/-- Measuring begins by emptying the cache, so it may begin with any. -/
theorem tracks_remeasure (region : Region) : Tracks remeasure Uncached.remeasure region := by
  refine tracks_get (tracks_unseen (invalidated region) rfl ?_)
  refine tracks_bind (tracks_range _ (MetricCache.faithful_empty _)) fun measured middle still => ?_
  exact tracks_of_ok rfl still rfl

theorem tracks_append (rows : List Row) (region : Region) :
    Tracks (append rows) (Uncached.append rows) region := by
  unfold append Uncached.append
  cases rows with
  | nil => exact tracks_throw _
  | cons head rest =>
      refine tracks_bind (tracks_remeasure region) fun _ measured current => ?_
      refine tracks_get ?_
      refine tracks_guard ?_
      refine tracks_guard ?_
      refine tracks_bind (tracks_range _ current) fun target ready _ => ?_
      refine tracks_bind (tracks_change _ _) fun _ written _ => ?_
      exact tracks_remeasure written

theorem tracks_sort (options : SortOptions) (region : Region) :
    Tracks (sort options) (Uncached.sort options) region := by
  refine tracks_bind (tracks_remeasure region) fun _ measured current => ?_
  refine tracks_get ?_
  refine tracks_bind (tracks_change _ _) fun _ sorted _ => ?_
  exact tracks_remeasure sorted

theorem tracks_clear_rows {rows : List Nat} (filled : rows.isEmpty = false) (region : Region) :
    Tracks (clearRows rows) (Uncached.clearRows rows) region := by
  unfold clearRows Uncached.clearRows
  rw [filled]
  refine tracks_bind (tracks_remeasure region) fun _ measured current => ?_
  refine tracks_get ?_
  refine tracks_bind (tracks_map_m ?_ rows current) fun addresses ready _ => ?_
  · intro row middle still
    refine tracks_bind (tracks_range _ still) fun found _ late => ?_
    exact tracks_pure found.a1 late
  · refine tracks_bind (tracks_change _ _) fun _ cleared _ => ?_
    exact tracks_remeasure cleared

end Region

end GridStore
