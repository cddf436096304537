import GridStore.Proofs.Address.Known
import GridStore.Proofs.Text.Words

/-!
Putting metrics into the text of a token. The words for them are replaced one after another, but
numerals are words that stand for no metric, so that it comes to replacing all words at once and the
order does not matter.
-/

set_option autoImplicit false

namespace GridStore

namespace Address

def meaningAmong (metrics : Metric → Nat) (listed : List Metric) (word : List Char) :
    Option (List Char) :=
  (listed.find? fun metric => metric.symbol = word).map fun metric =>
    Nat.toDigits 10 (metrics metric)

/-- What is put in for a word of a token: the numeral for the metric that it means, if any. -/
def meaning (metrics : Metric → Nat) : List Char → Option (List Char) :=
  meaningAmong metrics Metric.all

variable {metrics : Metric → Nat} {listed : List Metric}

theorem symbol_injective {metric other : Metric} (same : metric.symbol = other.symbol) :
    metric = other := by
  revert same
  cases metric <;> cases other <;> decide

theorem symbol_is_word (metric : Metric) : Text.IsWord metric.symbol :=
  ⟨symbol_not_empty metric, symbol_wordy metric⟩

theorem wordy_digit {character : Char} (digit : character.isDigit = true) :
    Text.isWordCharacter character = true := by
  have code := Text.digit_code digit
  have inside : (decide (48 ≤ character.toNat) && decide (character.toNat ≤ 57)) = true := by
    simpa using code
  exact List.any_eq_true.2 ⟨Text.wordRangesLatinToThai, List.mem_cons_self,
    List.any_eq_true.2 ⟨(48, 57), List.mem_cons_self, inside⟩⟩

theorem numeral_is_word (value : Nat) : Text.IsWord (Nat.toDigits 10 value) where
  notEmpty := Nat.toDigits_ne_nil
  wordy _ member := wordy_digit (is_digit_of_numeral member)

theorem symbol_ne_numeral (metric : Metric) (value : Nat) :
    metric.symbol ≠ Nat.toDigits 10 value := by
  intro same
  have digits : ∀ character ∈ metric.symbol, character.isDigit = true := by
    rw [same]
    exact fun _ member => is_digit_of_numeral member
  cases metric <;> exact absurd (digits _ List.mem_cons_self) (by decide)

theorem numeral_means_nothing (listed : List Metric) (value : Nat) :
    meaningAmong metrics listed (Nat.toDigits 10 value) = none := by
  rw [meaningAmong, Option.map_eq_none_iff, List.find?_eq_none]
  intro metric member
  simpa using symbol_ne_numeral metric value

theorem meaning_among_cons (metric : Metric) (word : List Char) :
    meaningAmong metrics (metric :: listed) word =
      if word = metric.symbol then some (Nat.toDigits 10 (metrics metric))
      else meaningAmong metrics listed word := by
  rw [meaningAmong, List.find?_cons]
  by_cases same : word = metric.symbol
  · simp [same]
  · simp [same, Ne.symm same, meaningAmong]

/-- Replacing the words of metrics one after another is replacing them at once. -/
theorem filled_from_eq (listed : List Metric) (text : List Char) :
    filledFrom metrics listed text = Text.replaceWords (meaningAmong metrics listed) text := by
  induction listed generalizing text with
  | nil => exact (Text.replace_words_nothing text).symm
  | cons metric listed induction =>
      have put : ∀ word replacement, (if word = metric.symbol then
          some (Nat.toDigits 10 (metrics metric)) else none) = some replacement →
            Text.IsWord replacement := by
        intro word replacement found
        split at found
        · exact Option.some.inj found ▸ numeral_is_word _
        · cases found
      rw [filledFrom, List.foldl_cons, ← filledFrom, induction,
        Text.replace_word_eq (symbol_is_word metric), Text.replace_words_twice put]
      congr 1
      funext word
      rw [meaning_among_cons]
      split
      · rw [Option.getD_some, numeral_means_nothing, Option.none_or]
      · rw [Option.getD_none, Option.or_none]

theorem meaning_among_iff {word replacement : List Char} :
    meaningAmong metrics listed word = some replacement ↔
      ∃ metric ∈ listed, metric.symbol = word ∧ Nat.toDigits 10 (metrics metric) = replacement := by
  rw [meaningAmong, Option.map_eq_some_iff]
  constructor
  · rintro ⟨metric, found, put⟩
    exact ⟨metric, List.mem_of_find?_eq_some found, by simpa using List.find?_some found, put⟩
  · rintro ⟨metric, member, rfl, put⟩
    refine ⟨metric, ?_, put⟩
    cases found : listed.find? fun other => other.symbol = metric.symbol with
    | none => simpa using List.find?_eq_none.1 found metric member
    | some other =>
        have same : other.symbol = metric.symbol := by simpa using List.find?_some found
        rw [symbol_injective same]

theorem meaning_among_perm {other : List Metric} (same : listed.Perm other) :
    meaningAmong metrics listed = meaningAmong metrics other := by
  funext word
  apply Option.ext
  intro replacement
  rw [meaning_among_iff, meaning_among_iff]
  simp only [same.mem_iff]

/-- What an expression as the text of a token comes to, if it has a finite value. -/
def evaluated (expression : List Char) (final : MetricCache) :
    EStateM.Result Error MetricCache Number :=
  match (Expression.evaluate? expression).filter Number.isFinite with
  | some value => .ok value.trunc final
  | none => .error (.range (.notANumber (String.ofList expression))) final

theorem coordinate_evaluated {grid : Grid} {cache final : MetricCache} {content : String}
    {expression : List Char} (substitutes : substituted grid content.toList cache =
      .ok expression final) :
    coordinate grid (.text content) cache = evaluated expression final := by
  rw [coordinate, Action.bind_of_ok substitutes, evaluated]
  cases Expression.evaluate? expression with
  | none => rfl
  | some value => cases finite : value.isFinite <;> simp [finite, Option.filter]

/-- A token is evaluated from its text with a numeral for every whole word that means a metric, and
with all else as it is. The text is the same in whatever order the metrics are put in. -/
theorem metrics_put_in_at_once (grid : Grid) (cache : MetricCache) (content : String)
    {order : List Metric} (each : order.Perm Metric.all) :
    (∃ final, coordinate grid (.text content) cache =
      evaluated (Text.replaceWords (meaning (cache.known grid)) content.toList) final) ∧
    (∃ final, order.foldlM (substitute grid) content.toList cache =
      .ok (Text.replaceWords (meaning (cache.known grid)) content.toList) final) ∧
    Text.ReplacesWords (meaning (cache.known grid))
      (Text.replaceWords (meaning (cache.known grid))) := by
  obtain ⟨usual, -, inTurn⟩ := substituted_from_known grid cache Metric.all content.toList
  obtain ⟨final, -, inOrder⟩ := substituted_from_known grid cache order content.toList
  rw [filled_from_eq] at inTurn inOrder
  rw [meaning_among_perm each] at inOrder
  exact ⟨⟨usual, coordinate_evaluated inTurn⟩, ⟨final, inOrder⟩, Text.replaces_words _⟩

theorem rows_and_columns_at_once :
    [Metric.maxColumns, .maxRows, .lastColumn, .lastRow].Perm Metric.all ∧
      (∃ final, coordinate (.blank "people" 40 12) (.text "mr+lrx*mc") .empty =
        evaluated "40+lrx*12".toList final) ∧
      ∃ final, [Metric.maxColumns, .maxRows, .lastColumn, .lastRow].foldlM
        (substitute (.blank "people" 40 12)) "mr+lrx*mc".toList MetricCache.empty =
          .ok "40+lrx*12".toList final := by
  have each : [Metric.maxColumns, .maxRows, .lastColumn, .lastRow].Perm Metric.all := by decide
  have replaced : Text.replaceWords (meaning (MetricCache.empty.known (.blank "people" 40 12)))
      "mr+lrx*mc".toList = "40+lrx*12".toList := by decide +kernel
  obtain ⟨evaluates, inOrder, -⟩ :=
    metrics_put_in_at_once (.blank "people" 40 12) .empty "mr+lrx*mc" each
  rw [replaced] at evaluates inOrder
  exact ⟨each, evaluates, inOrder⟩

end Address

end GridStore
