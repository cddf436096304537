import GridStore.Proofs.Action
import GridStore.Proofs.Number.Numeral
import GridStore.Proofs.Text.Replace
import GridStore.Sheet

/-!
Metrics as a cache knows them, filled or not, faithful to the grid or not: measuring changes nothing
about what is known, so the words in an expression are replaced by what was known beforehand, one
word after another and each piece of the text by itself.
-/

set_option autoImplicit false

namespace GridStore

/-- Everything the cache holds is what the grid measures now. -/
def MetricCache.IsFaithful (cache : MetricCache) (grid : Grid) : Prop :=
  ∀ metric value, cache metric = some value → value = grid.measure metric

namespace MetricCache

theorem faithful_empty (grid : Grid) : IsFaithful empty grid := by
  intro metric value held
  cases held

def known (cache : MetricCache) (grid : Grid) (metric : Metric) : Nat :=
  (cache.measure grid metric).1

theorem known_after_measure (cache : MetricCache) (grid : Grid) (metric : Metric) :
    (cache.measure grid metric).2.known grid = cache.known grid := by
  funext other
  unfold known measure
  cases held : cache metric with
  | some value => rfl
  | none =>
      by_cases same : other = metric
      · subst same
        simp [held]
      · simp only [if_neg same]
        cases cache other with
        | some value => rfl
        | none => rfl

theorem faithful_iff_known {cache : MetricCache} {grid : Grid} :
    cache.IsFaithful grid ↔ cache.known grid = grid.measure := by
  constructor
  · intro faithful
    funext metric
    unfold known measure
    cases held : cache metric with
    | some value => exact faithful metric value held
    | none => rfl
  · intro same metric value held
    have measured := congrFun same metric
    unfold known measure at measured
    rw [held] at measured
    exact measured

end MetricCache

def Sheet.known (sheet : Sheet) (metric : Metric) : Nat := sheet.cache.known sheet.grid metric

namespace Address

variable {text : List Char} {metrics : Metric → Nat}

/-- The text with every listed metric put in for its word, in the order of the list. -/
def filledFrom (metrics : Metric → Nat) (listed : List Metric) (text : List Char) : List Char :=
  listed.foldl (fun text metric =>
    Text.replaceWord metric.symbol (Nat.toDigits 10 (metrics metric)) text) text

def filled (metrics : Metric → Nat) (text : List Char) : List Char :=
  filledFrom metrics Metric.all text

theorem measured_apply {grid : Grid} {cache : MetricCache} (metric : Metric) :
    measured grid metric cache =
      .ok (cache.measure grid metric).1 (cache.measure grid metric).2 := rfl

/-- A metric whose word does not occur is not measured, and there would be nothing to replace. -/
theorem substitute_known (grid : Grid) (cache : MetricCache) (text : List Char) (metric : Metric) :
    ∃ cache', cache'.known grid = cache.known grid ∧
      substitute grid text metric cache =
        .ok (Text.replaceWord metric.symbol (Nat.toDigits 10 (cache.known grid metric)) text)
          cache' := by
  cases occurs : Text.occursIn metric.symbol text with
  | false =>
      refine ⟨cache, rfl, ?_⟩
      rw [substitute, if_neg (Bool.eq_false_iff.1 occurs), Text.replace_unmatched occurs]
      rfl
  | true =>
      refine ⟨_, MetricCache.known_after_measure cache grid metric, ?_⟩
      rw [substitute, if_pos occurs, Action.bind_of_ok (measured_apply metric)]
      rfl

theorem substituted_from_known (grid : Grid) (cache : MetricCache) (listed : List Metric)
    (text : List Char) :
    ∃ cache', cache'.known grid = cache.known grid ∧
      listed.foldlM (substitute grid) text cache =
        .ok (filledFrom (cache.known grid) listed text) cache' := by
  induction listed generalizing text cache with
  | nil => exact ⟨cache, rfl, rfl⟩
  | cons metric listed induction =>
      obtain ⟨between, same, first⟩ := substitute_known grid cache text metric
      obtain ⟨final, kept, others⟩ := induction between
        (Text.replaceWord metric.symbol (Nat.toDigits 10 (cache.known grid metric)) text)
      refine ⟨final, kept.trans same, ?_⟩
      rw [List.foldlM_cons, Action.bind_of_ok first, others, same]
      rfl

theorem substituted_known (grid : Grid) (cache : MetricCache) (text : List Char) :
    ∃ cache', cache'.known grid = cache.known grid ∧
      substituted grid text cache = .ok (filled (cache.known grid) text) cache' :=
  substituted_from_known grid cache Metric.all text

theorem symbol_wordy (metric : Metric) :
    ∀ character ∈ metric.symbol, Text.isWordCharacter character = true := by
  have all : metric.symbol.all Text.isWordCharacter = true := by cases metric <;> decide
  exact List.all_eq_true.1 all

theorem symbol_not_empty (metric : Metric) : metric.symbol ≠ [] := by
  cases metric <;> decide

theorem filled_from_around {separator : Char} (solo : Text.isWordCharacter separator = false)
    (listed : List Metric) (text rest : List Char) :
    filledFrom metrics listed (text ++ separator :: rest) =
      filledFrom metrics listed text ++ separator :: filledFrom metrics listed rest := by
  induction listed generalizing text rest with
  | nil => rfl
  | cons metric listed induction =>
      simp only [filledFrom, List.foldl_cons] at induction ⊢
      rw [Text.replace_around (symbol_wordy metric) (symbol_not_empty metric) solo, induction]

/-- Pieces with a character between them that belongs to no word are filled one by one. -/
theorem filled_around {separator : Char} (solo : Text.isWordCharacter separator = false)
    (text rest : List Char) :
    filled metrics (text ++ separator :: rest) =
      filled metrics text ++ separator :: filled metrics rest :=
  filled_from_around solo Metric.all text rest

theorem filled_nil : filled metrics [] = [] := by
  simp [filled, filledFrom, Metric.all, Text.replaceWord, Text.replaceWordAfter]

theorem filled_behind {separator : Char} (solo : Text.isWordCharacter separator = false)
    (text : List Char) : filled metrics (separator :: text) = separator :: filled metrics text := by
  rw [← List.nil_append (separator :: text), filled_around solo, filled_nil, List.nil_append]

theorem filled_before {separator : Char} (solo : Text.isWordCharacter separator = false)
    (text : List Char) :
    filled metrics (text ++ [separator]) = filled metrics text ++ [separator] := by
  rw [filled_around solo, filled_nil]

theorem replace_symbol_absent (metric : Metric) (replacement : List Char) (noL : 'l' ∉ text)
    (noM : 'm' ∉ text) : Text.replaceWord metric.symbol replacement text = text := by
  cases metric with
  | lastRow => exact Text.replace_after_absent replacement false noL
  | lastColumn => exact Text.replace_after_absent replacement false noL
  | maxRows => exact Text.replace_after_absent replacement false noM
  | maxColumns => exact Text.replace_after_absent replacement false noM

theorem filled_from_absent (listed : List Metric) (noL : 'l' ∉ text) (noM : 'm' ∉ text) :
    filledFrom metrics listed text = text := by
  induction listed with
  | nil => rfl
  | cons metric listed induction =>
      rw [filledFrom, List.foldl_cons, replace_symbol_absent metric _ noL noM]
      exact induction

theorem filled_absent (noL : 'l' ∉ text) (noM : 'm' ∉ text) : filled metrics text = text :=
  filled_from_absent Metric.all noL noM

theorem replace_symbol (metric other : Metric) (replacement : List Char) :
    Text.replaceWord metric.symbol replacement other.symbol =
      if other = metric then replacement else other.symbol := by
  by_cases same : other = metric
  · rw [if_pos same, same]
    cases metric <;> exact Text.replace_whole
  · have unmatched : Text.occursIn metric.symbol other.symbol = false := by
      revert same
      cases metric <;> cases other <;> decide
    rw [if_neg same, Text.replace_unmatched unmatched]

theorem filled_from_digits (listed : List Metric) {digits : List Char}
    (inside : ∀ character ∈ digits, character.isDigit = true) :
    filledFrom metrics listed digits = digits := by
  refine filled_from_absent listed ?_ ?_
  · intro member
    exact absurd (inside _ member) (by decide)
  · intro member
    exact absurd (inside _ member) (by decide)

/-- The word of a listed metric becomes its numeral, which later replacements leave alone. -/
theorem filled_from_symbol (listed : List Metric) (metric : Metric) (member : metric ∈ listed) :
    filledFrom metrics listed metric.symbol = Nat.toDigits 10 (metrics metric) := by
  induction listed with
  | nil => cases member
  | cons other listed induction =>
      rw [filledFrom, List.foldl_cons, replace_symbol]
      by_cases same : metric = other
      · rw [if_pos same, same]
        exact filled_from_digits listed fun _ digit => is_digit_of_numeral digit
      · rw [if_neg same]
        exact induction (List.mem_of_ne_of_mem same member)

theorem filled_symbol (metric : Metric) :
    filled metrics metric.symbol = Nat.toDigits 10 (metrics metric) :=
  filled_from_symbol Metric.all metric (by cases metric <;> decide)

theorem filled_digits {digits : List Char}
    (inside : ∀ character ∈ digits, character.isDigit = true) : filled metrics digits = digits :=
  filled_from_digits Metric.all inside

end Address

end GridStore
