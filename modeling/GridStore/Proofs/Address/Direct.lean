import GridStore.Proofs.Address.Known

/-!
Resolving addresses directly, for metrics that are simply given: a plain function that stores
nothing. Resolving through a cache comes to the same for the metrics that the cache knows, errors
included, and the cache knows the same metrics afterwards.
-/

set_option autoImplicit false

namespace GridStore.Address

section Direct

variable (grid : Grid) (metrics : Metric → Nat)

def numberOf (expression : List Char) : Except Error Number :=
  let failure := Error.range (.notANumber (String.ofList expression))
  match Expression.evaluate? expression with
  | some value => if value.isFinite then .ok value.trunc else .error failure
  | none => .error failure

def coordinateAt (token : AddressToken) : Except Error Number :=
  match token with
  | .number value => .ok value.trunc
  | .text content => numberOf (filled metrics content.toList)
  | other => .error (.range (.notANumber other.display))

def blockOf (signature : String) (row column rows columns : Number) : Except Error Span :=
  let coordinates := [row, column, rows, columns]
  if coordinates.any Number.isZero then .error (.range (.badSignature signature))
  else if coordinates.any isNoSize then
    .error (.range (.incorrect (",".intercalate (coordinates.map Number.display))))
  else (Span.validated ⟨row.toNat, column.toNat, rows.toNat, columns.toNat⟩).mapError .range

def tokensAt (address : Address) : Except Error Span := do
  let row ← coordinateAt metrics address.row
  let column ← coordinateAt metrics address.column
  let rows ← coordinateAt metrics (orOne address.rows)
  let columns ← coordinateAt metrics (orOne address.columns)
  blockOf address.signature row column rows columns

def partsAt (address : Address) : Except Error Span :=
  let failure := Error.range (.badSignature address.signature)
  match address.row with
  | .resolver find => do
      let span ← (find grid).mapError .resolver
      span.validated.mapError .range
  | row =>
      if row.isPresent && address.column.isPresent then tokensAt metrics address
      else match row with
        | .text content =>
            if (lenientNumber? content.toList).isNone then
              (Span.ofA1 content (metrics .maxRows) (metrics .maxColumns)).mapError .range
            else .error failure
        | _ => .error failure

def spanAt (address : Address) : Except Error Span :=
  match address.row with
  | .text content =>
      if content.toList.contains ',' then partsAt grid metrics (split content.toList)
      else partsAt grid metrics address
  | _ => partsAt grid metrics address

end Direct

/-- Whatever the cache holds, the action ends as the outcome for the metrics that it knows, and it
knows the same ones afterwards. -/
def Reads {α : Type} (grid : Grid) (action : Action MetricCache α)
    (outcome : (Metric → Nat) → Except Error α) : Prop :=
  ∀ cache : MetricCache, ∃ final : MetricCache, final.known grid = cache.known grid ∧
    action cache = Action.ofExcept id (outcome (cache.known grid)) final

section Reads

variable {α β : Type} {grid : Grid} {first : Action MetricCache α}
  {next : α → Action MetricCache β} {outcome : (Metric → Nat) → Except Error α}
  {others : α → (Metric → Nat) → Except Error β}

theorem reads_pure (value : α) : Reads grid (pure value) fun _ => .ok value := by
  intro cache
  exact ⟨cache, rfl, rfl⟩

theorem reads_throw (error : Error) :
    Reads grid (throw error : Action MetricCache α) fun _ => .error error := by
  intro cache
  exact ⟨cache, rfl, rfl⟩

theorem reads_of_except {ε : Type} (wrap : ε → Error) (source : Except ε α) :
    Reads grid (Action.ofExcept wrap source) fun _ => source.mapError wrap := by
  intro cache
  refine ⟨cache, rfl, ?_⟩
  cases source with
  | ok value => rfl
  | error cause => rfl

theorem reads_bind (starts : Reads grid first outcome)
    (goes : ∀ value, Reads grid (next value) (others value)) :
    Reads grid (first >>= next) fun metrics => outcome metrics >>= fun value =>
      others value metrics := by
  intro cache
  obtain ⟨between, same, ran⟩ := starts cache
  simp only
  cases known : outcome (cache.known grid) with
  | error cause =>
      rw [known] at ran
      refine ⟨between, same, ?_⟩
      rw [Action.bind_of_error ran]
      rfl
  | ok value =>
      rw [known] at ran
      obtain ⟨final, kept, ended⟩ := goes value between
      refine ⟨final, kept.trans same, ?_⟩
      rw [Action.bind_of_ok ran, ended, same]
      rfl

theorem reads_guard {condition : Prop} [Decidable condition] {error : Error}
    {rest : Unit → Action MetricCache α} (goes : Reads grid (rest ()) outcome) :
    Reads grid (if condition then throw error >>= rest else rest ())
      fun metrics => if condition then .error error else outcome metrics := by
  by_cases holds : condition
  · simp only [if_pos holds]
    intro cache
    exact ⟨cache, rfl, rfl⟩
  · simp only [if_neg holds]
    exact goes

theorem reads_measured (grid : Grid) (metric : Metric) :
    Reads grid (measured grid metric) fun metrics => .ok (metrics metric) := by
  intro cache
  exact ⟨_, MetricCache.known_after_measure cache grid metric, rfl⟩

theorem reads_substituted (grid : Grid) (text : List Char) :
    Reads grid (substituted grid text) fun metrics => .ok (filled metrics text) :=
  fun cache => substituted_known grid cache text

end Reads

theorem reads_number_of (grid : Grid) (expression : List Char) :
    Reads grid
      (match Expression.evaluate? expression with
        | some value =>
            if value.isFinite then pure value.trunc
            else throw (Error.range (.notANumber (String.ofList expression)))
        | none => throw (Error.range (.notANumber (String.ofList expression))))
      fun _ => numberOf expression := by
  unfold numberOf
  cases Expression.evaluate? expression with
  | none => exact reads_throw _
  | some value =>
      by_cases finite : value.isFinite = true
      · simp only [if_pos finite]
        exact reads_pure _
      · simp only [if_neg finite]
        exact reads_throw _

theorem reads_coordinate (grid : Grid) (token : AddressToken) :
    Reads grid (coordinate grid token) fun metrics => coordinateAt metrics token := by
  cases token with
  | missing => exact reads_throw _
  | number value => exact reads_pure _
  | resolver find => exact reads_throw _
  | text content => exact reads_bind (reads_substituted grid content.toList) (reads_number_of grid)

theorem reads_tokens (grid : Grid) (address : Address) :
    Reads grid (resolveTokens grid address) fun metrics => tokensAt metrics address := by
  refine reads_bind (reads_coordinate grid address.row) fun row => ?_
  refine reads_bind (reads_coordinate grid address.column) fun column => ?_
  refine reads_bind (reads_coordinate grid (orOne address.rows)) fun rows => ?_
  refine reads_bind (reads_coordinate grid (orOne address.columns)) fun columns => ?_
  exact reads_guard (reads_guard (reads_of_except .range _))

theorem reads_a1 (grid : Grid) (text : String) :
    Reads grid (resolveA1 grid text) fun metrics =>
      (Span.ofA1 text (metrics .maxRows) (metrics .maxColumns)).mapError .range := by
  have both := reads_bind (reads_measured grid .maxRows) fun rows =>
    reads_bind (reads_measured grid .maxColumns) fun columns =>
      reads_of_except .range (Span.ofA1 text rows columns)
  exact both

theorem reads_parts (grid : Grid) (address : Address) :
    Reads grid (resolveParts grid address) fun metrics => partsAt grid metrics address := by
  unfold resolveParts partsAt
  cases address.row with
  | resolver find =>
      exact reads_bind (reads_of_except .resolver (find grid)) fun span =>
        reads_of_except .range span.validated
  | missing => exact reads_throw _
  | number value =>
      by_cases present :
          ((AddressToken.number value).isPresent && address.column.isPresent) = true
      · simp only [if_pos present]
        exact reads_tokens grid address
      · simp only [if_neg present]
        exact reads_throw _
  | text content =>
      by_cases present : ((AddressToken.text content).isPresent && address.column.isPresent) = true
      · simp only [if_pos present]
        exact reads_tokens grid address
      · simp only [if_neg present]
        by_cases whole : (lenientNumber? content.toList).isNone = true
        · simp only [if_pos whole]
          exact reads_a1 grid content
        · simp only [if_neg whole]
          exact reads_throw _

/-- Resolving through a cache is resolving directly for the metrics that the cache knows. -/
theorem reads_span (grid : Grid) (address : Address) :
    Reads grid (resolve grid address) fun metrics => spanAt grid metrics address := by
  unfold resolve spanAt
  cases address.row with
  | text content =>
      by_cases joined : content.toList.contains ',' = true
      · simp only [if_pos joined]
        exact reads_parts grid _
      · simp only [if_neg joined]
        exact reads_parts grid address
  | missing => exact reads_parts grid address
  | number value => exact reads_parts grid address
  | resolver find => exact reads_parts grid address

theorem resolve_direct {grid : Grid} {cache : MetricCache} (faithful : cache.IsFaithful grid)
    (address : Address) :
    ∃ final : MetricCache, final.IsFaithful grid ∧
      resolve grid address cache =
        Action.ofExcept id (spanAt grid grid.measure address) final := by
  obtain ⟨final, same, ran⟩ := reads_span grid address cache
  rw [MetricCache.faithful_iff_known.1 faithful] at same ran
  exact ⟨final, MetricCache.faithful_iff_known.2 same, ran⟩

theorem faithful_of_resolved {grid : Grid} {cache final : MetricCache} {address : Address}
    {span : Span} (faithful : cache.IsFaithful grid)
    (resolved : resolve grid address cache = .ok span final) : final.IsFaithful grid := by
  obtain ⟨other, still, direct⟩ := resolve_direct faithful address
  rw [direct] at resolved
  rw [(Action.of_except_ok_iff.1 resolved).2]
  exact still

end GridStore.Address
