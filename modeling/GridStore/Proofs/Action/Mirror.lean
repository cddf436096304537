import GridStore.Proofs.Action

/-!
Actions beside one another: one does with a changed state what another does with the state itself,
up to a change of the values returned. It is enough that every step of the two goes alike.
-/

set_option autoImplicit false

namespace GridStore.Action

variable {σ α β γ : Type}

def mirrored (onState : σ → σ) (onValue : α → α) :
    EStateM.Result Error σ α → EStateM.Result Error σ α
  | .ok value final => .ok (onValue value) (onState final)
  | .error error final => .error error (onState final)

/-- The second action does with a changed state what the first one does with the state itself. -/
def Mirrors (onState : σ → σ) (onValue : α → α) (action mirror : Action σ α) : Prop :=
  ∀ state, mirror (onState state) = mirrored onState onValue (action state)

variable {onState : σ → σ} {onValue : α → α} {onResult : β → β} {action mirror : Action σ α}
  {next others : α → Action σ β}

theorem mirrors_pure (value : α) :
    Mirrors onState onValue (pure value) (pure (onValue value) : Action σ α) := fun _ => rfl

theorem mirrors_throw (error : Error) :
    Mirrors onState onValue (throw error) (throw error : Action σ α) := fun _ => rfl

theorem mirrors_get : Mirrors onState onState get (get : Action σ σ) := fun _ => rfl

theorem mirrors_modify {change changed : σ → σ}
    (agrees : ∀ state, changed (onState state) = onState (change state)) :
    Mirrors onState id (modify change) (modify changed : Action σ PUnit) := by
  intro state
  rw [modify_apply, modify_apply, agrees]
  rfl

theorem mirrors_of_except {ε : Type} {wrap : ε → Error} {source result : Except ε α}
    (agrees : result = source.map onValue) :
    Mirrors onState onValue (ofExcept wrap source) (ofExcept wrap result : Action σ α) := by
  intro state
  rw [agrees]
  cases source <;> rfl

theorem mirrors_bind (first : Mirrors onState onValue action mirror)
    (rest : ∀ value, Mirrors onState onResult (next value) (others (onValue value))) :
    Mirrors onState onResult (action >>= next) (mirror >>= others) := by
  intro state
  have same := first state
  cases ran : action state with
  | ok value middle =>
      rw [ran] at same
      rw [bind_of_ok ran, bind_of_ok same]
      exact rest value middle
  | error error middle =>
      rw [ran] at same
      rw [bind_of_error ran, bind_of_error same]
      rfl

theorem mirrors_guard {condition : Prop} [Decidable condition] {error : Error}
    {rest other : Unit → Action σ β} (goes : Mirrors onState onResult (rest ()) (other ())) :
    Mirrors onState onResult (if condition then throw error >>= rest else rest ())
      (if condition then throw error >>= other else other ()) := by
  by_cases holds : condition
  · rw [if_pos holds, if_pos holds]
    exact fun _ => rfl
  · rw [if_neg holds, if_neg holds]
    exact goes

theorem mirrors_map_m {step : γ → Action σ α}
    (steps : ∀ item, Mirrors onState id (step item) (step item)) (items : List γ) :
    Mirrors onState id (items.mapM step) (items.mapM step) := by
  induction items with
  | nil => exact mirrors_pure []
  | cons item rest induction =>
      rw [List.mapM_cons]
      refine mirrors_bind (steps item) fun value => ?_
      exact mirrors_bind induction fun values => mirrors_pure _

theorem same_of_mirrors {other : Action σ α} {state counterpart : σ}
    (mirrors : Mirrors onState onValue action mirror)
    (others : Mirrors onState onValue other mirror) (same : onState state = onState counterpart) :
    mirrored onState onValue (action state) = mirrored onState onValue (other counterpart) := by
  rw [← mirrors state, ← others counterpart, same]

end GridStore.Action
