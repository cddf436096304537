import GridStore.Proofs.Scan
import Mathlib.Data.List.Forall2

/-!
Where a scan ends.

Every row is converted in its own place, whatever happens on the others. A scan stops at the first
row on which a strategy or its visitor asks it to: the rows before it are its result, and these
rows together with the one it stops at are what the visitor has been shown.
-/

set_option autoImplicit false

namespace GridStore

namespace EntityMapper

abbrev Sight := Entity × Nat × Bool

/-- Strategies convert an entity one after another. Each is told whether one before it has stopped
the scan, and adds its own answer to that. One that replaces the flag and so takes a stop back is
left out. -/
inductive Converts (index : Nat) : List EntityStrategy → Entity × Bool → Entity × Bool → Prop
  | done (loaded : Entity × Bool) : Converts index [] loaded loaded
  | next {strategy : EntityStrategy} {rest : List EntityStrategy} {entity changed : Entity}
      {stopped stops : Bool} {loaded : Entity × Bool}
      (step : strategy.load entity index stopped = (changed, stops))
      (others : Converts index rest (changed, stopped || stops) loaded) :
      Converts index (strategy :: rest) (entity, stopped) loaded

def sightsFrom (mapper : EntityMapper) (index : Nat) (rows : List Row) : List Sight :=
  (rows.zipIdx index).map fun place =>
    let (entity, stopped) := mapper.load place.1 place.2
    (entity, place.2, stopped)

def sights (mapper : EntityMapper) (rows : List Row) : List Sight := mapper.sightsFrom 0 rows

theorem sights_from_cons (mapper : EntityMapper) (index : Nat) (row : Row) (rest : List Row) :
    mapper.sightsFrom index (row :: rest) =
      ((mapper.load row index).1, index, (mapper.load row index).2) ::
        mapper.sightsFrom (index + 1) rest := rfl

/-- The sight of a row is that of its own position and of its own fields after all strategies. The
first strategy is always told that the scan has not been stopped. -/
theorem sights_convert (mapper : EntityMapper) (rows : List Row) :
    List.Forall₂ (fun place sight => sight.2.1 = place.2 ∧
        Converts place.2 mapper.strategies (mapper.rows.toEntity place.1, false)
          (sight.1, sight.2.2))
      rows.zipIdx (mapper.sights rows) := by
  have folded : ∀ (index : Nat) (strategies : List EntityStrategy) (loaded : Entity × Bool),
      Converts index strategies loaded (strategies.foldl (fun (entity, stopped) strategy =>
        let (entity, stops) := strategy.load entity index stopped
        (entity, stopped || stops)) loaded) := by
    intro index strategies
    induction strategies with
    | nil => exact .done
    | cons strategy rest induction => exact fun loaded => .next rfl (induction _)
  rw [sights, sightsFrom, List.forall₂_map_right_iff, List.forall₂_same]
  exact fun place _ => ⟨rfl, folded place.2 mapper.strategies _⟩

namespace Visitor

variable {σ : Type}

def after (visit : Visitor σ) (state : σ) (sights : List Sight) : σ :=
  sights.foldl (fun state sight => (visit state sight.1 sight.2.1 sight.2.2).1) state

/-- A strategy or the visitor stops the scan at a place. What the visitor does there is up to its
state, and so to everything that it has been shown before. -/
def StopsAt (visit : Visitor σ) (state : σ) (sights : List Sight) (place : Nat) : Prop :=
  ∃ sight, sights[place]? = some sight ∧
    (sight.2.2 = true ∨
      (visit (visit.after state (sights.take place)) sight.1 sight.2.1 sight.2.2).2 = true)

/-- The first place at which the scan is stopped, or the number of rows if there is none. -/
structure IsEnd (visit : Visitor σ) (state : σ) (sights : List Sight) (last : Nat) : Prop where
  within : last ≤ sights.length
  stops : last < sights.length → visit.StopsAt state sights last
  goes : ∀ place < last, ¬ visit.StopsAt state sights place

def recording (visit : Visitor σ) : Visitor (σ × List Sight) :=
  fun (state, record) entity index stopped =>
    let (state, stops) := visit state entity index stopped
    ((state, record ++ [(entity, index, stopped)]), stops)

def NeverStops (visit : Visitor σ) : Prop :=
  ∀ state entity index stopped, (visit state entity index stopped).2 = false

variable (visit : Visitor σ) (state : σ) (sight : Sight) (sights : List Sight)

theorem stops_at_first_iff :
    visit.StopsAt state (sight :: sights) 0 ↔
      sight.2.2 = true ∨ (visit state sight.1 sight.2.1 sight.2.2).2 = true := by
  simp [StopsAt, after]

theorem stops_at_later_iff (place : Nat) :
    visit.StopsAt state (sight :: sights) (place + 1) ↔
      visit.StopsAt (visit state sight.1 sight.2.1 sight.2.2).1 sights place := by
  simp [StopsAt, after]

variable {visit state sight sights}

theorem IsEnd.at_first (stops : visit.StopsAt state (sight :: sights) 0) {last : Nat} :
    visit.IsEnd state (sight :: sights) last ↔ last = 0 := by
  constructor
  · intro ends
    by_contra later
    exact ends.goes 0 (by omega) stops
  · rintro rfl
    exact ⟨Nat.zero_le _, fun _ => stops, fun place earlier => absurd earlier (by omega)⟩

theorem IsEnd.later (goes : ¬ visit.StopsAt state (sight :: sights) 0) {last : Nat} :
    visit.IsEnd state (sight :: sights) last ↔
      ∃ before, last = before + 1 ∧
        visit.IsEnd (visit state sight.1 sight.2.1 sight.2.2).1 sights before := by
  constructor
  · intro ends
    cases last with
    | zero => exact absurd (ends.stops (by simp)) goes
    | succ before =>
        refine ⟨before, rfl, by simpa using ends.within, fun inside => ?_, fun place earlier => ?_⟩
        · exact (visit.stops_at_later_iff state sight sights before).1
            (ends.stops (by simpa using inside))
        · exact fun stops => ends.goes (place + 1) (by omega)
            ((visit.stops_at_later_iff state sight sights place).2 stops)
  · rintro ⟨before, rfl, ends⟩
    refine ⟨by simpa using ends.within, fun inside => ?_, fun place earlier => ?_⟩
    · exact (visit.stops_at_later_iff state sight sights before).2
        (ends.stops (by simpa using inside))
    · cases place with
      | zero => exact goes
      | succ place =>
          rw [stops_at_later_iff]
          exact ends.goes place (by omega)

theorem exists_end (visit : Visitor σ) (state : σ) (sights : List Sight) :
    ∃ last, visit.IsEnd state sights last := by
  induction sights generalizing state with
  | nil => exact ⟨0, Nat.le_refl 0, fun inside => absurd inside (by simp), by simp⟩
  | cons sight sights induction =>
      by_cases stops : visit.StopsAt state (sight :: sights) 0
      · exact ⟨0, (IsEnd.at_first stops).2 rfl⟩
      · obtain ⟨before, ends⟩ := induction (visit state sight.1 sight.2.1 sight.2.2).1
        exact ⟨before + 1, (IsEnd.later stops).2 ⟨before, rfl, ends⟩⟩

theorem recording_after (record : List Sight) :
    visit.recording.after (state, record) sights = (visit.after state sights, record ++ sights) := by
  induction sights generalizing state record with
  | nil => simp [after]
  | cons sight sights induction =>
      have step := @induction (visit state sight.1 sight.2.1 sight.2.2).1 (record ++ [sight])
      rwa [List.append_assoc] at step

/-- Keeping a record changes nothing about where the scan ends. -/
theorem IsEnd.recording {last : Nat} (ends : visit.IsEnd state sights last) :
    visit.recording.IsEnd (state, []) sights last := by
  have same : ∀ place, visit.recording.StopsAt (state, []) sights place ↔
      visit.StopsAt state sights place := by
    intro place
    simp only [StopsAt, recording_after]
    rfl
  exact ⟨ends.within, fun inside => (same last).2 (ends.stops inside),
    fun place earlier => mt (same place).1 (ends.goes place earlier)⟩

end Visitor

variable {σ : Type} {mapper : EntityMapper} {visit : Visitor σ}

theorem scan_from_of_end {index last : Nat} {state : σ} {rows : List Row}
    (ends : visit.IsEnd state (mapper.sightsFrom index rows) last) :
    mapper.scanFrom visit index state rows =
      (((mapper.sightsFrom index rows).take last).map Prod.fst,
        visit.after state ((mapper.sightsFrom index rows).take (last + 1))) := by
  induction rows generalizing index last state with
  | nil => simp [scanFrom, sightsFrom, Visitor.after]
  | cons row rest induction =>
      rw [sights_from_cons] at ends ⊢
      rw [scanFrom]
      generalize mapper.load row index = loaded at ends ⊢
      obtain ⟨entity, stopped⟩ := loaded
      by_cases stops : visit.StopsAt state
          ((entity, index, stopped) :: mapper.sightsFrom (index + 1) rest) 0
      · obtain rfl := (Visitor.IsEnd.at_first stops).1 ends
        rw [Visitor.stops_at_first_iff] at stops
        simp [stops, Visitor.after]
      · obtain ⟨before, rfl, endsLater⟩ := (Visitor.IsEnd.later stops).1 ends
        rw [Visitor.stops_at_first_iff] at stops
        simp [stops, Visitor.after, induction endsLater]

/-- A visitor that never stops leaves the end of the scan to the strategies. -/
theorem kept_of_never_stops (never : visit.NeverStops) (state : σ) (rows : List Row) :
    (mapper.scan visit state rows).1 = mapper.kept rows := by
  rw [scan, mapper.scan_from_quiet never, kept]

/-- A scan ends at the first place where a strategy or the visitor stops it. It returns the
entities of the rows before that place, and has shown the visitor the rows up to that place and no
others, each of them once and in order. A visitor that never stops is as good as none. -/
theorem scan_ends_at_first_stop (mapper : EntityMapper) (visit : Visitor σ) (state : σ)
    (rows : List Row) :
    List.Forall₂ (fun place sight => sight.2.1 = place.2 ∧
        Converts place.2 mapper.strategies (mapper.rows.toEntity place.1, false)
          (sight.1, sight.2.2))
      rows.zipIdx (mapper.sights rows) ∧
    (∃ last, visit.IsEnd state (mapper.sights rows) last ∧
      mapper.scan visit state rows =
        (((mapper.sights rows).take last).map Prod.fst,
          visit.after state ((mapper.sights rows).take (last + 1))) ∧
      mapper.scan visit.recording (state, []) rows =
        ((mapper.scan visit state rows).1, (mapper.scan visit state rows).2,
          (mapper.sights rows).take (last + 1))) ∧
    (visit.NeverStops → (mapper.scan visit state rows).1 = (mapper.scan .idle () rows).1) := by
  refine ⟨mapper.sights_convert rows, ?_, fun never => ?_⟩
  · obtain ⟨last, ends⟩ := visit.exists_end state (mapper.sights rows)
    have scanned : mapper.scan visit state rows = _ := scan_from_of_end ends
    have recorded : mapper.scan visit.recording (state, []) rows = _ :=
      scan_from_of_end ends.recording
    refine ⟨last, ends, scanned, ?_⟩
    rw [recorded, scanned, Visitor.recording_after]
    rfl
  · rw [kept_of_never_stops never, scan_idle]

end EntityMapper

end GridStore
