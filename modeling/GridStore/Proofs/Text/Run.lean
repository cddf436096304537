import GridStore.Text.Character
import GridStore.Text.WholeWord
import Mathlib.Data.List.TakeDrop
import Mathlib.Data.List.TakeWhile

/-!
Runs of characters of one class, which readers take off the front of a text, texts without blanks,
of which nothing is trimmed, and texts in which a word cannot occur because its first character
does not.
-/

set_option autoImplicit false

namespace GridStore.Text

section Runs

variable {test : Char → Bool} {run rest : List Char}

theorem take_run (inside : ∀ character ∈ run, test character = true)
    (stops : ∀ character ∈ rest.head?, test character = false) :
    (run ++ rest).takeWhile test = run := by
  rw [List.takeWhile_append_of_pos inside]
  cases rest with
  | nil => simp
  | cons character rest => simp [stops character rfl]

theorem drop_run (inside : ∀ character ∈ run, test character = true)
    (stops : ∀ character ∈ rest.head?, test character = false) :
    (run ++ rest).dropWhile test = rest := by
  rw [List.dropWhile_append_of_pos inside]
  cases rest with
  | nil => rfl
  | cons character rest => simp [stops character rfl]

theorem span_run (inside : ∀ character ∈ run, test character = true)
    (stops : ∀ character ∈ rest.head?, test character = false) :
    (run ++ rest).span test = (run, rest) := by
  rw [List.span_eq_takeWhile_dropWhile, take_run inside stops, drop_run inside stops]

end Runs

theorem digit_code {character : Char} (digit : character.isDigit = true) :
    48 ≤ character.toNat ∧ character.toNat ≤ 57 := by
  simp only [Char.isDigit, Bool.and_eq_true, decide_eq_true_eq] at digit
  exact digit

theorem is_blank_digit {character : Char} (digit : character.isDigit = true) :
    isBlank character = false := by
  have code := digit_code digit
  simp only [isBlank, inRanges, blankRanges, List.any_cons, List.any_nil, Bool.or_eq_false_iff,
    Bool.and_eq_false_iff, decide_eq_false_iff_not, and_true]
  omega

theorem drop_blanks_none {text : List Char}
    (solid : ∀ character ∈ text, isBlank character = false) : text.dropWhile isBlank = text := by
  cases text with
  | nil => rfl
  | cons character rest =>
      have front := solid character List.mem_cons_self
      simp [front]

theorem trim_solid {text : List Char} (solid : ∀ character ∈ text, isBlank character = false) :
    trim text = text := by
  have reversed : ∀ character ∈ text.reverse, isBlank character = false :=
    fun character member => solid character (List.mem_reverse.1 member)
  rw [trim, drop_blanks_none solid, drop_blanks_none reversed, List.reverse_reverse]

section Absent

variable {first : Char} {part text : List Char}

theorem replace_after_absent (replacement : List Char) (inWord : Bool) (absent : first ∉ text) :
    replaceWordAfter (first :: part) replacement inWord text = text := by
  induction text generalizing inWord with
  | nil => rw [replaceWordAfter]
  | cons character rest induction =>
      have different : first ≠ character := fun same => absent (same ▸ List.mem_cons_self)
      have later := fun inWord =>
        induction inWord fun member => absent (List.mem_cons_of_mem _ member)
      rw [replaceWordAfter]
      simp [List.isPrefixOf, different, later]

theorem replace_leading_word (replacement : List Char) (absent : first ∉ text)
    (ends : endsWord text = true) :
    replaceWord (first :: part) replacement (first :: part ++ text) = replacement ++ text := by
  have behind : (part ++ text).drop ((first :: part).length - 1) = text := by simp
  have front : (first :: part).isPrefixOf (first :: (part ++ text)) = true := by simp
  rw [replaceWord, List.cons_append, replaceWordAfter]
  simp only [behind, front, ends, Bool.not_false, Bool.and_true, if_true]
  rw [replace_after_absent replacement true absent]

end Absent

end GridStore.Text
