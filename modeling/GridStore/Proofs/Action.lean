import GridStore.Address.Resolve

/-!
Actions step by step: what a sequence of two does, from what its first one does, and what the
first one must have done when the sequence succeeds.
-/

set_option autoImplicit false

namespace GridStore.Action

variable {σ α β : Type} {first : Action σ α} {next : α → Action σ β} {state middle final : σ}

theorem bind_of_ok {value : α} (ran : first state = .ok value middle) :
    (first >>= next) state = next value middle := by
  show EStateM.bind first next state = next value middle
  rw [EStateM.bind, ran]

theorem bind_of_error {error : Error} (failed : first state = .error error middle) :
    (first >>= next) state = .error error middle := by
  show EStateM.bind first next state = .error error middle
  rw [EStateM.bind, failed]

theorem bind_ok_iff {result : β} :
    (first >>= next) state = .ok result final ↔
      ∃ value middle, first state = .ok value middle ∧ next value middle = .ok result final := by
  cases ran : first state with
  | ok value middle =>
      rw [bind_of_ok ran]
      constructor
      · intro finished
        exact ⟨value, middle, rfl, finished⟩
      · rintro ⟨other, between, same, finished⟩
        cases same
        exact finished
  | error error middle =>
      rw [bind_of_error ran]
      constructor
      · intro finished
        cases finished
      · rintro ⟨other, between, same, finished⟩
        cases same

theorem bind_error_iff {error : Error} :
    (first >>= next) state = .error error final ↔
      first state = .error error final ∨
        ∃ value middle, first state = .ok value middle ∧ next value middle = .error error final := by
  cases ran : first state with
  | ok value middle =>
      rw [bind_of_ok ran]
      constructor
      · intro failed
        exact Or.inr ⟨value, middle, rfl, failed⟩
      · rintro (same | ⟨other, between, same, failed⟩)
        · cases same
        · cases same
          exact failed
  | error cause middle =>
      rw [bind_of_error ran]
      constructor
      · intro same
        cases same
        exact Or.inl rfl
      · rintro (same | ⟨other, between, same, failed⟩)
        · cases same
          rfl
        · cases same

theorem discard_error_iff {error : Error} :
    (discard first : Action σ PUnit) state = .error error final ↔
      first state = .error error final := by
  have mapped : (discard first : Action σ PUnit) state =
      EStateM.map (fun _ => PUnit.unit) first state := rfl
  rw [mapped, EStateM.map]
  cases first state with
  | ok value middle => simp
  | error cause middle => simp

@[simp]
theorem pure_apply (value : α) : (pure value : Action σ α) state = .ok value state := rfl

@[simp]
theorem throw_apply (error : Error) : (throw error : Action σ α) state = .error error state := rfl

@[simp]
theorem get_apply : (get : Action σ σ) state = .ok state state := rfl

@[simp]
theorem modify_apply (change : σ → σ) :
    (modify change : Action σ PUnit) state = .ok () (change state) := rfl

@[simp]
theorem of_except_ok {ε : Type} (wrap : ε → Error) (value : α) :
    ofExcept wrap (.ok value) state = .ok value state := rfl

@[simp]
theorem of_except_error {ε : Type} (wrap : ε → Error) (cause : ε) :
    (ofExcept wrap (.error cause) : Action σ α) state = .error (wrap cause) state := rfl

theorem of_except_ok_iff {ε : Type} {wrap : ε → Error} {source : Except ε α} {value : α} :
    ofExcept wrap source state = .ok value final ↔ source = .ok value ∧ final = state := by
  cases source with
  | ok held => simp [eq_comm]
  | error cause => simp

theorem guard_ok_iff {condition : Prop} [Decidable condition] {error : Error}
    {rest : Unit → Action σ β} {result : β} :
    (if condition then throw error >>= rest else rest ()) state = .ok result final ↔
      ¬condition ∧ rest () state = .ok result final := by
  by_cases holds : condition
  · have failed : (throw error : Action σ Unit) state = .error error state := rfl
    rw [if_pos holds, bind_of_error failed]
    simp [holds]
  · rw [if_neg holds]
    simp [holds]

theorem for_m_nil {ι : Type} (step : ι → Action σ PUnit) : [].forM step state = .ok () state := rfl

theorem for_m_cons {ι : Type} (step : ι → Action σ PUnit) (item : ι) (rest : List ι) :
    (item :: rest).forM step = step item >>= fun _ => rest.forM step := rfl

end GridStore.Action
