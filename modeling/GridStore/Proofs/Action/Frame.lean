import GridStore.Proofs.Action

/-!
Frames: what an action leaves alone, whether it succeeds or fails.

A frame relates the state that an action leaves to the one it began in. Frames hold of a sequence
when they hold of its steps; an action that changes something at its end may still keep a frame
whenever it fails.
-/

set_option autoImplicit false

namespace GridStore

/-- A relation between earlier and later states that carries over from step to step. -/
structure Frame (σ : Type) where
  related : σ → σ → Prop
  refl : ∀ state, related state state
  trans : ∀ {first second third}, related first second → related second third →
    related first third

namespace Frame

variable {σ α β : Type}

def ofView (view : σ → β) : Frame σ where
  related before after := view after = view before
  refl _ := rfl
  trans first second := second.trans first

/-- Whatever becomes of the action, it stays within the frame. -/
structure Keeps (frame : Frame σ) (action : Action σ α) : Prop where
  on_ok : ∀ {state value final}, action state = .ok value final → frame.related state final
  on_error : ∀ {state error final}, action state = .error error final → frame.related state final

structure KeepsOnFailure (frame : Frame σ) (action : Action σ α) (state : σ) : Prop where
  on_error : ∀ {error final}, action state = .error error final → frame.related state final

structure KeepsFrom (frame : Frame σ) (action : Action σ α) (state : σ) : Prop where
  on_ok : ∀ {value final}, action state = .ok value final → frame.related state final
  on_error : ∀ {error final}, action state = .error error final → frame.related state final

variable {frame : Frame σ} {first : Action σ α} {next : α → Action σ β} {state final : σ}

theorem keeps_pure (value : α) : frame.Keeps (pure value : Action σ α) where
  on_ok ran := by
    cases ran
    exact frame.refl _
  on_error failed := by cases failed

theorem keeps_throw (error : Error) : frame.Keeps (throw error : Action σ α) where
  on_ok ran := by cases ran
  on_error failed := by
    cases failed
    exact frame.refl _

theorem keeps_get : frame.Keeps (get : Action σ σ) where
  on_ok ran := by
    cases ran
    exact frame.refl _
  on_error failed := by cases failed

theorem keeps_modify {change : σ → σ} (related : ∀ state, frame.related state (change state)) :
    frame.Keeps (modify change : Action σ PUnit) where
  on_ok ran := by
    cases ran
    exact related _
  on_error failed := by cases failed

theorem keeps_of_same (same : (ofView id).Keeps first) : frame.Keeps first where
  on_ok := by
    intro state value final ran
    have unchanged : final = state := same.on_ok ran
    rw [unchanged]
    exact frame.refl state
  on_error := by
    intro state error final failed
    have unchanged : final = state := same.on_error failed
    rw [unchanged]
    exact frame.refl state

theorem keeps_bind (starts : frame.Keeps first) (goes : ∀ value, frame.Keeps (next value)) :
    frame.Keeps (first >>= next) where
  on_ok finished := by
    obtain ⟨value, middle, ran, ended⟩ := Action.bind_ok_iff.1 finished
    exact frame.trans (starts.on_ok ran) ((goes value).on_ok ended)
  on_error failed := by
    rcases Action.bind_error_iff.1 failed with stopped | ⟨value, middle, ran, stopped⟩
    · exact starts.on_error stopped
    · exact frame.trans (starts.on_ok ran) ((goes value).on_error stopped)

theorem keeps_map_m {γ : Type} {step : γ → Action σ β} (keeps : ∀ item, frame.Keeps (step item))
    (items : List γ) : frame.Keeps (items.mapM step) := by
  induction items with
  | nil => exact keeps_pure []
  | cons item rest induction =>
      rw [List.mapM_cons]
      exact keeps_bind (keeps item) fun _ => keeps_bind induction fun _ => keeps_pure _

theorem keeps_on_failure (keeps : frame.Keeps first) : frame.KeepsOnFailure first state :=
  ⟨keeps.on_error⟩

/-- Of a sequence only the last step has to be looked at in the state that it begins in. -/
theorem keeps_on_failure_bind (starts : frame.Keeps first)
    (ends : ∀ value middle, first state = .ok value middle →
      frame.KeepsOnFailure (next value) middle) :
    frame.KeepsOnFailure (first >>= next) state where
  on_error failed := by
    rcases Action.bind_error_iff.1 failed with stopped | ⟨value, middle, ran, stopped⟩
    · exact starts.on_error stopped
    · exact frame.trans (starts.on_ok ran) ((ends value middle ran).on_error stopped)

theorem keeps_on_failure_guard {condition : Prop} [Decidable condition] {error : Error}
    {rest : Unit → Action σ β} (goes : frame.KeepsOnFailure (rest ()) state) :
    frame.KeepsOnFailure (if condition then throw error >>= rest else rest ()) state := by
  by_cases holds : condition
  · rw [if_pos holds]
    exact keeps_on_failure (keeps_throw error)
  · rw [if_neg holds]
    exact goes

theorem keeps_from (keeps : frame.Keeps first) : frame.KeepsFrom first state :=
  ⟨keeps.on_ok, keeps.on_error⟩

theorem keeps_from_bind (starts : frame.KeepsFrom first state)
    (goes : ∀ value middle, first state = .ok value middle →
      frame.KeepsFrom (next value) middle) :
    frame.KeepsFrom (first >>= next) state where
  on_ok finished := by
    obtain ⟨value, middle, ran, ended⟩ := Action.bind_ok_iff.1 finished
    exact frame.trans (starts.on_ok ran) ((goes value middle ran).on_ok ended)
  on_error failed := by
    rcases Action.bind_error_iff.1 failed with stopped | ⟨value, middle, ran, stopped⟩
    · exact starts.on_error stopped
    · exact frame.trans (starts.on_ok ran) ((goes value middle ran).on_error stopped)

theorem keeps_from_guard {condition : Prop} [Decidable condition] {error : Error}
    {rest : Unit → Action σ β} (goes : ¬condition → frame.KeepsFrom (rest ()) state) :
    frame.KeepsFrom (if condition then throw error >>= rest else rest ()) state := by
  by_cases holds : condition
  · rw [if_pos holds]
    exact keeps_from (keeps_throw error)
  · rw [if_neg holds]
    exact goes holds

end Frame

end GridStore
