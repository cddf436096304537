import GridStore.Proofs.Headers

/-!
Frames of regions. Everything that is done with a region is made of a few steps, so it stays within
a frame as soon as measuring, resolving an address and changing the grid do.
-/

set_option autoImplicit false

namespace GridStore

namespace Frame

section Guards

variable {σ β : Type} {frame : Frame σ}

theorem keeps_guard {condition : Prop} [Decidable condition] {error : Error}
    {rest : Unit → Action σ β} (goes : frame.Keeps (rest ())) :
    frame.Keeps (if condition then throw error >>= rest else rest ()) := by
  by_cases holds : condition
  · rw [if_pos holds]
    exact keeps_throw error
  · rw [if_neg holds]
    exact goes

end Guards

structure KeepsSteps (frame : Frame Region) : Prop where
  remeasures : frame.Keeps Region.remeasure
  ranges : ∀ address, frame.Keeps (Region.onSheet (Sheet.range address))
  changes : ∀ change : GridChange,
    frame.Keeps (Region.onSheet (Sheet.change change.apply) : Action Region PUnit)

variable {frame : Frame Region}

theorem KeepsSteps.append (steps : frame.KeepsSteps) (rows : List Row) :
    frame.Keeps (Region.append rows) := by
  cases rows with
  | nil => exact keeps_throw _
  | cons head rest =>
      unfold Region.append
      refine keeps_bind steps.remeasures fun _ => ?_
      refine keeps_bind keeps_get fun measured => ?_
      refine keeps_guard (keeps_guard ?_)
      refine keeps_bind (steps.ranges _) fun target => ?_
      exact keeps_bind (steps.changes (.write target _)) fun _ => steps.remeasures

theorem KeepsSteps.sort (steps : frame.KeepsSteps) (options : SortOptions) :
    frame.Keeps (Region.sort options) := by
  unfold Region.sort
  refine keeps_bind steps.remeasures fun _ => ?_
  refine keeps_bind keeps_get fun measured => ?_
  exact keeps_bind (steps.changes (.sort _ _ _)) fun _ => steps.remeasures

theorem KeepsSteps.clear_rows (steps : frame.KeepsSteps) (rows : List Nat) :
    frame.Keeps (Region.clearRows rows) := by
  unfold Region.clearRows
  by_cases nothing : rows.isEmpty = true
  · rw [if_pos nothing]
    exact keeps_pure _
  · rw [if_neg nothing]
    refine keeps_bind steps.remeasures fun _ => ?_
    refine keeps_bind keeps_get fun measured => ?_
    refine keeps_bind (keeps_map_m (fun row => ?_) rows) fun addresses => ?_
    · exact keeps_bind (steps.ranges _) fun _ => keeps_pure _
    · exact keeps_bind (steps.changes (.clear addresses)) fun _ => steps.remeasures

theorem KeepsSteps.serve (steps : frame.KeepsSteps) (repository : Repository) (request : Request)
    (region : Region) : frame.related region ((request.serve repository).final region) := by
  apply Repository.related_of_serve repository request
  · intro filter firstOnly
    apply keeps_from
    unfold Repository.delete
    refine keeps_bind (keeps_of_same (Repository.scan_keeps_region _ _ _)) fun _ => ?_
    exact keeps_bind (steps.clear_rows _) fun _ => keeps_pure _
  · intro entities
    apply keeps_from
    unfold Repository.insertMany Region.appendEntities
    by_cases nothing : entities.isEmpty = true
    · rw [if_pos nothing]
      exact keeps_pure _
    · rw [if_neg nothing]
      exact steps.append _
  · exact fun options => keeps_from (steps.sort options)

end Frame

end GridStore
