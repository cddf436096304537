import GridStore.Proofs.Region.Uncached
import GridStore.Proofs.Scan

/-!
Several services on one grid, which may also change behind their backs. A service remembers its
block between calls, and a cached one its cache as well.

Main statement: whatever the services are asked, in whatever order, and however the grid changes in
between, nobody can tell services with caches from services without.
-/

set_option autoImplicit false

namespace GridStore

inductive RegionCall where
  | values
  | append (rows : List Row)
  | sort (options : SortOptions)
  | clearRows (rows : List Nat)
  | remeasure

inductive RegionReply where
  | rows (values : List Row)
  | done

namespace RegionCall

def answer : RegionCall → Action Region RegionReply
  | .values => do return .rows (← Region.values)
  | .append rows => do
      Region.append rows
      return .done
  | .sort options => do
      Region.sort options
      return .done
  | .clearRows rows => do
      Region.clearRows rows
      return .done
  | .remeasure => do
      Region.remeasure
      return .done

def answerUncached : RegionCall → Action Uncached RegionReply
  | .values => do return .rows (← Uncached.values)
  | .append rows => do
      Uncached.append rows
      return .done
  | .sort options => do
      Uncached.sort options
      return .done
  | .clearRows rows => do
      Uncached.clearRows rows
      return .done
  | .remeasure => do
      Uncached.remeasure
      return .done

end RegionCall

/-- How services work that remember something between calls: what becomes of it and of the grid
during a call. -/
structure ServiceKind (μ : Type) where
  span : μ → Span
  serve : RegionCall → Grid → μ → Except Error RegionReply × Grid × μ

namespace ServiceKind

def ended {σ α : Type} : EStateM.Result Error σ α → Except Error α × σ
  | .ok value final => (.ok value, final)
  | .error error final => (.error error, final)

def cached : ServiceKind (MetricCache × Span) where
  span memory := memory.2
  serve call grid memory :=
    let (reply, region) := ended (call.answer ⟨⟨grid, memory.1⟩, memory.2⟩)
    (reply, region.sheet.grid, region.sheet.cache, region.span)

def uncached : ServiceKind Span where
  span memory := memory
  serve call grid span :=
    let (reply, state) := ended (call.answerUncached ⟨grid, span⟩)
    (reply, state.grid, state.span)

end ServiceKind

structure Services (μ : Type) where
  grid : Grid
  memories : List μ

inductive SharedEvent where
  | call (place : Nat) (call : RegionCall)
  | change (update : Grid → Grid)

/-- What can be seen after an event: the reply to a call, the blocks of all services, the grid. -/
structure Sight where
  reply : Option (Except Error RegionReply)
  spans : List Span
  grid : Grid

namespace Services

variable {μ : Type} (kind : ServiceKind μ)

def sight (services : Services μ) (reply : Option (Except Error RegionReply)) : Sight :=
  ⟨reply, services.memories.map kind.span, services.grid⟩

def called (services : Services μ) (place : Nat) (call : RegionCall) (memory : μ) :
    Option (Except Error RegionReply) × Services μ :=
  let (reply, grid, memory) := kind.serve call services.grid memory
  (some reply, ⟨grid, services.memories.set place memory⟩)

/-- One event. There is no reply from a service that does not exist. -/
def step (services : Services μ) : SharedEvent → Option (Except Error RegionReply) × Services μ
  | .change update => (none, { services with grid := update services.grid })
  | .call place call =>
      match services.memories[place]? with
      | none => (none, services)
      | some memory => services.called kind place call memory

def run (services : Services μ) : List SharedEvent → List Sight
  | [] => []
  | event :: events =>
      let (reply, after) := services.step kind event
      after.sight kind reply :: after.run events

def uncached (services : Services (MetricCache × Span)) : Services Span :=
  ⟨services.grid, services.memories.map (·.2)⟩

end Services

namespace Region

open ServiceKind

/-- With and without its cache a region ends alike; what is in the cache does not matter. -/
def Agrees {α : Type} (action : Action Region α) (plain : Action Uncached α) (region : Region) :
    Prop :=
  (ended (plain region.uncached)).1 = (ended (action region)).1 ∧
    (ended (plain region.uncached)).2 = (ended (action region)).2.uncached

variable {α β : Type} {region : Region}

theorem agrees_of_tracks {action : Action Region α} {plain : Action Uncached α}
    (tracks : Tracks action plain region) : Agrees action plain region := by
  unfold Agrees
  cases ran : action region with
  | ok value final =>
      rw [(tracks.on_ok ran).2]
      exact ⟨rfl, rfl⟩
  | error error final =>
      rw [tracks.on_error ran]
      exact ⟨rfl, rfl⟩

theorem agrees_when_done {action : Action Region Unit} {plain : Action Uncached Unit}
    (tracks : Tracks action plain region) :
    Agrees (action >>= fun _ => pure RegionReply.done) (plain >>= fun _ => pure .done) region := by
  apply agrees_of_tracks
  exact tracks_bind tracks fun _ _ current => tracks_pure _ current

theorem values_agree (region : Region) :
    Agrees RegionCall.values.answer RegionCall.values.answerUncached region := by
  have plain : Uncached.values region.uncached =
      Action.ofExcept .grid (region.sheet.grid.read region.span) region.uncached := rfl
  show Agrees (values >>= fun rows => pure (RegionReply.rows rows))
    (Uncached.values >>= fun rows => pure (RegionReply.rows rows)) region
  unfold Agrees
  cases read : region.sheet.grid.read region.span with
  | ok rows =>
      rw [read] at plain
      have held : values region = .ok rows region := by rw [values_apply, read]
      rw [Action.bind_of_ok held, Action.bind_of_ok plain]
      exact ⟨rfl, rfl⟩
  | error cause =>
      rw [read] at plain
      have failed : values region = .error (.grid cause) region := by rw [values_apply, read]
      rw [Action.bind_of_error failed, Action.bind_of_error plain]
      exact ⟨rfl, rfl⟩

theorem answer_agrees (call : RegionCall) (region : Region) :
    Agrees call.answer call.answerUncached region := by
  cases call with
  | values => exact values_agree region
  | append rows => exact agrees_when_done (tracks_append rows region)
  | sort options => exact agrees_when_done (tracks_sort options region)
  | remeasure => exact agrees_when_done (tracks_remeasure region)
  | clearRows rows =>
      cases rows with
      | nil => exact ⟨rfl, rfl⟩
      | cons row rest => exact agrees_when_done (tracks_clear_rows rfl region)

end Region

namespace Services

open ServiceKind

theorem serve_uncached (call : RegionCall) (grid : Grid) (memory : MetricCache × Span) :
    ServiceKind.uncached.serve call grid memory.2 =
      ((cached.serve call grid memory).1, (cached.serve call grid memory).2.1,
        (cached.serve call grid memory).2.2.2) := by
  obtain ⟨reply, state⟩ := Region.answer_agrees call ⟨⟨grid, memory.1⟩, memory.2⟩
  exact Prod.ext reply (Prod.ext (congrArg Uncached.grid state) (congrArg Uncached.span state))

theorem called_uncached (services : Services (MetricCache × Span)) (place : Nat)
    (call : RegionCall) (memory : MetricCache × Span) :
    services.uncached.called ServiceKind.uncached place call memory.2 =
      ((services.called cached place call memory).1,
        (services.called cached place call memory).2.uncached) := by
  have served := serve_uncached call services.grid memory
  unfold called
  rw [show services.uncached.grid = services.grid from rfl, served]
  simp only [Services.uncached, List.map_set]

theorem step_uncached (services : Services (MetricCache × Span)) (event : SharedEvent) :
    services.uncached.step ServiceKind.uncached event =
      ((services.step cached event).1, (services.step cached event).2.uncached) := by
  cases event with
  | change update => rfl
  | call place call =>
      have found : services.uncached.memories[place]? = services.memories[place]?.map (·.2) :=
        List.getElem?_map
      simp only [step, found]
      cases services.memories[place]? with
      | none => rfl
      | some memory => exact called_uncached services place call memory

theorem sight_uncached (services : Services (MetricCache × Span))
    (reply : Option (Except Error RegionReply)) :
    services.uncached.sight ServiceKind.uncached reply = services.sight cached reply := by
  simp only [sight, Services.uncached, List.map_map]
  rfl

/-- Nobody can tell whether services that share a grid have caches, whatever the caches hold at the
beginning. -/
theorem run_uncached (services : Services (MetricCache × Span)) (events : List SharedEvent) :
    services.uncached.run ServiceKind.uncached events = services.run cached events := by
  induction events generalizing services with
  | nil => rfl
  | cons event events induction =>
      simp only [run, step_uncached, sight_uncached, induction]

end Services

end GridStore
