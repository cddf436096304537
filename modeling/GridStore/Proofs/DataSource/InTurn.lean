import GridStore.Proofs.DataSource.Run

/-!
Working with one repository again and again. What one call leaves is what the next one finds, so
that a series of calls on a region is a series of calls on the data source that holds it.
-/

set_option autoImplicit false

namespace GridStore.DataSource

variable {source connected : DataSource} {selector : Selector} {place : Nat} {binding : Binding}
  {region : Region}

theorem put_again (first second : Region) :
    (connected.putRegion place binding first).putRegion place
        { binding with cache := first.sheet.cache, span := first.span } second =
      connected.putRegion place binding second := by
  simp only [putRegion, Workbook.replace, List.set_set]

theorem workbook_after_put (access : source.Access selector connected place binding region)
    {after : Region} (same : after.sheet.grid = region.sheet.grid) :
    (connected.putRegion place binding after).workbook = connected.workbook := by
  have kept := congrArg DataSource.workbook (put_unchanged access.held access.present)
  rw [← kept, putRegion, putRegion, same]

theorem run_fails_of_access {α : Type} {action : Repository → Action Region α}
    (access : source.Access selector connected place binding region) {error : Error}
    {stopped : Region} (failed : action binding.repository region = .error error stopped) :
    run selector action source = .error error (connected.putRegion place binding stopped) := by
  rw [run, Action.bind_of_ok access.connects, Action.bind_of_ok Action.get_apply]
  simp only [access.held, access.present, failed]
  rfl

theorem access_connected (access : source.Access selector connected place binding region) :
    connected.Access selector connected place binding region :=
  ⟨connect_again (place_of_connect access.connects), access.held, access.present⟩

section Each

variable {ι : Type} {action : ι → Repository → Action Region Unit} {items : List ι}
  {repository : Repository}

/-- A series of calls on the region that succeeds is one on the data source. -/
theorem each_of_access (access : connected.Access selector connected place binding region)
    (works : binding.repository = repository) {after : Region}
    (ran : (items.forM fun item => action item repository) region = .ok () after) :
    (items.forM fun item => run selector (action item)) connected =
      .ok () (connected.putRegion place binding after) := by
  -- The binding changes from call to call, in its cache and its span. Its repository does not.
  induction items generalizing connected binding region with
  | nil =>
      cases ran
      rw [put_unchanged access.held access.present, Action.for_m_nil]
  | cons item rest induction =>
      rw [Action.for_m_cons] at ran ⊢
      obtain ⟨nothing, between, here, later⟩ := Action.bind_ok_iff.1 ran
      rw [← works] at here
      have first : run selector (action item) connected =
          .ok () (connected.putRegion place binding between) :=
        (run_of_access access).2 ⟨between, here, rfl⟩
      have again := induction (access_again access between) works later
      rw [put_again] at again
      rw [Action.bind_of_ok first]
      exact again

theorem each_fails_of_access (access : connected.Access selector connected place binding region)
    (works : binding.repository = repository) {error : Error} {stopped : Region}
    (failed : (items.forM fun item => action item repository) region = .error error stopped) :
    (items.forM fun item => run selector (action item)) connected =
      .error error (connected.putRegion place binding stopped) := by
  induction items generalizing connected binding region with
  | nil => cases failed
  | cons item rest induction =>
      rw [Action.for_m_cons] at failed ⊢
      rcases Action.bind_error_iff.1 failed with here | ⟨nothing, between, here, later⟩
      · rw [← works] at here
        exact Action.bind_of_error (run_fails_of_access access here)
      · rw [← works] at here
        have first : run selector (action item) connected =
            .ok () (connected.putRegion place binding between) :=
          (run_of_access access).2 ⟨between, here, rfl⟩
        have again := induction (access_again access between) works later
        rw [put_again] at again
        rw [Action.bind_of_ok first]
        exact again

end Each

/-- The row of an entity does not depend on its position among others. -/
theorem stores_of_access (reachable : source.Reachable)
    (access : source.Access selector connected place binding region) (entity : Entity)
    (index : Nat) :
    binding.repository.mapper.store entity index = binding.repository.mapper.store entity 0 := by
  have opened : connected = source.after (.connect selector) := by
    rw [after, Event.run, final_discard, final_of_ok access.connects]
  have member := List.mem_of_getElem? access.held
  rw [opened] at member
  obtain ⟨schema, -, -, map, same⟩ :=
    well_bound_of_reachable (reachable_after reachable _) binding member
  rw [same]
  rfl

end GridStore.DataSource
