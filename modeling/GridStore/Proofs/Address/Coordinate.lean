import GridStore.Proofs.Address.Known
import GridStore.Proofs.Expression.Numeral

/-!
Coordinates: what single tokens of an address resolve to. A cache may be empty or filled as long
as it does not contradict the grid; whatever is measured on the way keeps it so.
-/

set_option autoImplicit false

namespace GridStore.Address

variable {grid : Grid} {cache : MetricCache}

theorem filled_word_and_numeral {metrics : Metric → Nat} (metric : Metric) {mark : Char}
    (solo : Text.isWordCharacter mark = false) (value : Nat) :
    filled metrics (metric.symbol ++ [' ', mark, ' '] ++ Nat.toDigits 10 value) =
      Nat.toDigits 10 (metrics metric) ++ [' ', mark, ' '] ++ Nat.toDigits 10 value := by
  have space : Text.isWordCharacter ' ' = false := by decide
  have numeral : filled metrics (Nat.toDigits 10 value) = Nat.toDigits 10 value :=
    filled_digits fun _ member => is_digit_of_numeral member
  simp only [List.append_assoc, List.cons_append, List.nil_append]
  rw [filled_around space, filled_behind solo, filled_behind space, filled_symbol, numeral]

theorem substituted_word_and_numeral (faithful : cache.IsFaithful grid) (metric : Metric)
    {mark : Char} (solo : Text.isWordCharacter mark = false) (value : Nat) {text : List Char}
    (characters : text = metric.symbol ++ [' ', mark, ' '] ++ Nat.toDigits 10 value) :
    ∃ cache', cache'.IsFaithful grid ∧ substituted grid text cache =
      .ok (Nat.toDigits 10 (grid.measure metric) ++ [' ', mark, ' '] ++ Nat.toDigits 10 value)
        cache' := by
  have known := MetricCache.faithful_iff_known.1 faithful
  obtain ⟨cache', kept, substitutes⟩ := substituted_known grid cache text
  refine ⟨cache', MetricCache.faithful_iff_known.2 (kept.trans known), ?_⟩
  rw [substitutes, characters, filled_word_and_numeral metric solo, known]

theorem rows_minus_characters (value : Nat) :
    ("mr - " ++ toString value).toList =
      Metric.maxRows.symbol ++ [' ', '-', ' '] ++ Nat.toDigits 10 value := by
  rw [String.toList_append, Nat.toString_eq_repr, Nat.toList_repr]
  rfl

theorem coordinate_number (value : Number) :
    coordinate grid (.number value) cache = .ok value.trunc cache := rfl

theorem coordinate_text {content : String} {expression : List Char} {value : Number}
    {cache' : MetricCache}
    (substitutes : substituted grid content.toList cache = .ok expression cache')
    (evaluates : Expression.evaluate? expression = some value) :
    coordinate grid (.text content) cache =
      if value.isFinite then .ok value.trunc cache'
      else .error (.range (.notANumber (String.ofList expression))) cache' := by
  rw [coordinate, Action.bind_of_ok substitutes]
  simp only [evaluates]
  split <;> rfl

theorem coordinate_metric (faithful : cache.IsFaithful grid) {metric : Metric} {content : String}
    (word : content.toList = metric.symbol) :
    ∃ cache' failure, cache'.IsFaithful grid ∧
      coordinate grid (.text content) cache =
        if (Number.ofNat (grid.measure metric)).isFinite then
          .ok (Number.ofNat (grid.measure metric)).trunc cache'
        else .error failure cache' := by
  have known := MetricCache.faithful_iff_known.1 faithful
  obtain ⟨cache', kept, substitutes⟩ := substituted_known grid cache content.toList
  rw [word, filled_symbol, known, ← word] at substitutes
  exact ⟨cache', _, MetricCache.faithful_iff_known.2 (kept.trans known),
    coordinate_text substitutes (Expression.evaluate_numeral _)⟩

theorem coordinate_rows_minus (faithful : cache.IsFaithful grid) (value : Nat) :
    ∃ cache' failure, cache'.IsFaithful grid ∧
      coordinate grid (.text ("mr - " ++ toString value)) cache =
        if ((Number.ofNat grid.maxRows).sub (.ofNat value)).isFinite then
          .ok ((Number.ofNat grid.maxRows).sub (.ofNat value)).trunc cache'
        else .error failure cache' := by
  obtain ⟨cache', kept, substitutes⟩ := substituted_word_and_numeral faithful .maxRows
    (by decide) value (rows_minus_characters value)
  exact ⟨cache', _, kept, coordinate_text substitutes (Expression.evaluate_difference _ _)⟩

theorem coordinate_successor (faithful : cache.IsFaithful grid) :
    ∃ cache' failure, cache'.IsFaithful grid ∧
      coordinate grid (.text "lr + 1") cache =
        if ((Number.ofNat grid.lastRow).add (.ofNat 1)).isFinite then
          .ok ((Number.ofNat grid.lastRow).add (.ofNat 1)).trunc cache'
        else .error failure cache' := by
  have characters : "lr + 1".toList =
      Metric.lastRow.symbol ++ [' ', '+', ' '] ++ Nat.toDigits 10 1 := by decide
  obtain ⟨cache', kept, substitutes⟩ := substituted_word_and_numeral faithful .lastRow
    (by decide) 1 characters
  exact ⟨cache', _, kept, coordinate_text substitutes (Expression.evaluate_sum _ _)⟩

theorem coordinate_below_content (faithful : cache.IsFaithful grid)
    (small : grid.lastRow < exactBound) :
    ∃ cache', cache'.IsFaithful grid ∧
      coordinate grid (.text "lr + 1") cache = .ok (.ofNat (grid.lastRow + 1)) cache' := by
  obtain ⟨cache', failure, kept, resolved⟩ := coordinate_successor faithful
  have sum := Number.add_of_nat (Nat.le_of_lt small) (show 1 ≤ exactBound by decide)
  refine ⟨cache', kept, ?_⟩
  rw [resolved, sum, Number.is_finite_of_nat small, Number.trunc_of_nat small, if_pos rfl]

end GridStore.Address
