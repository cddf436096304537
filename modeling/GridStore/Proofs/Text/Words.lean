import GridStore.Proofs.Text.Replace

/-!
Replacing all words of a text in one pass. A word is as long as it can be: no word character touches
it on either side. Replacing one word after another comes to the same as long as everything that is
put in is a word again, since the words of the text then stay apart.
-/

set_option autoImplicit false

namespace GridStore.Text

def replaceWords (meaning : List Char → Option (List Char)) : List Char → List Char
  | [] => []
  | character :: rest =>
      if isWordCharacter character then
        let word := character :: rest.takeWhile isWordCharacter
        (meaning word).getD word ++ replaceWords meaning (rest.dropWhile isWordCharacter)
      else character :: replaceWords meaning rest
termination_by text => text.length
decreasing_by
  · have := List.length_dropWhile_le isWordCharacter rest
    simp only [List.length_cons]
    omega
  · simp only [List.length_cons]
    omega

/-- A non-empty run of word characters. -/
structure IsWord (text : List Char) : Prop where
  notEmpty : text ≠ []
  wordy : ∀ character ∈ text, isWordCharacter character = true

variable {meaning : List Char → Option (List Char)} {word replacement text rest : List Char}

theorem word_of_run {character : Char} (wordy : isWordCharacter character = true)
    (rest : List Char) : IsWord (character :: rest.takeWhile isWordCharacter) where
  notEmpty := List.cons_ne_nil _ _
  wordy := List.forall_mem_cons.2 ⟨wordy, fun _ => List.mem_takeWhile_imp⟩

theorem ends_word_behind_run (text : List Char) :
    endsWord (text.dropWhile isWordCharacter) = true := by
  have front := List.head?_dropWhile_not isWordCharacter text
  cases behind : text.dropWhile isWordCharacter with
  | nil => rfl
  | cons character rest =>
      rw [behind] at front
      simpa [endsWord] using front

theorem ends_word_cases (ends : endsWord text = true) :
    text = [] ∨ ∃ separator rest, isWordCharacter separator = false ∧ text = separator :: rest := by
  cases text with
  | nil => exact Or.inl rfl
  | cons separator rest => exact Or.inr ⟨separator, rest, by simpa [endsWord] using ends, rfl⟩

/-- A text is empty, or begins with a character between words or with a word that ends there. -/
theorem word_by_word {motive : List Char → Prop} (nothing : motive [])
    (between : ∀ separator rest, isWordCharacter separator = false → motive rest →
      motive (separator :: rest))
    (front : ∀ word rest, IsWord word → endsWord rest = true → motive rest → motive (word ++ rest))
    (text : List Char) : motive text := by
  induction text using replaceWords.induct with
  | case1 => exact nothing
  | case2 character rest wordy induction =>
      have led := front _ _ (word_of_run wordy rest) (ends_word_behind_run rest) induction
      rwa [List.cons_append, List.takeWhile_append_dropWhile] at led
  | case3 character rest solo induction =>
      exact between character rest (by simpa using solo) induction

theorem replace_words_nil : replaceWords meaning [] = [] := by rw [replaceWords]

theorem replace_words_between {separator : Char} (solo : isWordCharacter separator = false) :
    replaceWords meaning (separator :: rest) = separator :: replaceWords meaning rest := by
  rw [replaceWords, if_neg (by simp [solo])]

theorem replace_words_front (isWord : IsWord word) (ends : endsWord rest = true) :
    replaceWords meaning (word ++ rest) =
      (meaning word).getD word ++ replaceWords meaning rest := by
  obtain ⟨first, part, rfl⟩ := List.exists_cons_of_ne_nil isWord.notEmpty
  have wordy := List.forall_mem_cons.1 isWord.wordy
  have stops : ∀ character ∈ rest.head?, isWordCharacter character = false := by
    rcases ends_word_cases ends with rfl | ⟨separator, behind, solo, rfl⟩
    · simp
    · simpa using solo
  rw [List.cons_append, replaceWords, if_pos wordy.1]
  simp only [take_run wordy.2 stops, drop_run wordy.2 stops]

theorem ends_word_of_replaced (ends : endsWord text = true) :
    endsWord (replaceWords meaning text) = true := by
  rcases ends_word_cases ends with rfl | ⟨separator, rest, solo, rfl⟩
  · rw [replace_words_nil]
    rfl
  · rw [replace_words_between solo]
    simp [endsWord, solo]

theorem replace_words_nothing (text : List Char) : replaceWords (fun _ => none) text = text := by
  induction text using word_by_word with
  | nothing => exact replace_words_nil
  | between separator rest solo induction => rw [replace_words_between solo, induction]
  | front word rest isWord ends induction =>
      rw [replace_words_front isWord ends, induction, Option.getD_none]

/-- A character between words keeps what is before it and what is behind it apart. -/
theorem replace_words_around {separator : Char} (solo : isWordCharacter separator = false)
    (text rest : List Char) :
    replaceWords meaning (text ++ separator :: rest) =
      replaceWords meaning text ++ separator :: replaceWords meaning rest := by
  induction text using word_by_word with
  | nothing => rw [List.nil_append, replace_words_between solo, replace_words_nil, List.nil_append]
  | between other behind apart induction =>
      rw [List.cons_append, replace_words_between apart, replace_words_between apart, induction,
        List.cons_append]
  | front word behind isWord ends induction =>
      have endsBefore : endsWord (behind ++ separator :: rest) = true := by
        rw [ends_word_at_separator solo, ends]
      rw [List.append_assoc, replace_words_front isWord endsBefore, replace_words_front isWord ends,
        induction, List.append_assoc]

/-- A word of the text `before ++ word ++ after`: no word character touches it. -/
structure StandsAlone (before word after : List Char) : Prop where
  isWord : IsWord word
  begins : ∀ character ∈ before.getLast?, isWordCharacter character = false
  ends : ∀ character ∈ after.head?, isWordCharacter character = false

/-- What it is to replace the words of a text by their meanings: each of them is replaced whatever
is around it, and a text between words stays. -/
structure ReplacesWords (meaning : List Char → Option (List Char))
    (replace : List Char → List Char) : Prop where
  alone : ∀ before word after, StandsAlone before word after →
    replace (before ++ (word ++ after)) =
      replace before ++ ((meaning word).getD word ++ replace after)
  between : ∀ text, (∀ character ∈ text, isWordCharacter character = false) → replace text = text

theorem replaces_words (meaning : List Char → Option (List Char)) :
    ReplacesWords meaning (replaceWords meaning) where
  alone := by
    rintro before word after ⟨isWord, begins, ends⟩
    have endsAfter : endsWord after = true := by
      cases after with
      | nil => rfl
      | cons character after => simp [endsWord, ends character rfl]
    rcases List.eq_nil_or_concat before with rfl | ⟨front, separator, rfl⟩
    · rw [List.nil_append, replace_words_front isWord endsAfter, replace_words_nil, List.nil_append]
    · rw [List.concat_eq_append] at begins ⊢
      have solo := begins separator (by simp)
      rw [List.append_assoc, List.singleton_append, replace_words_around solo,
        replace_words_front isWord endsAfter, replace_words_around solo, replace_words_nil,
        List.append_assoc, List.singleton_append]
  between := by
    intro text apart
    induction text with
    | nil => exact replace_words_nil
    | cons separator rest induction =>
        have all := List.forall_mem_cons.1 apart
        rw [replace_words_between all.1, induction all.2]

/-- Where all that is put in are words, they are the words of the new text, so that a second pass
replaces them in turn. -/
theorem replace_words_twice {later : List Char → Option (List Char)}
    (wordy : ∀ word replacement, meaning word = some replacement → IsWord replacement)
    (text : List Char) :
    replaceWords later (replaceWords meaning text) =
      replaceWords (fun word => (later ((meaning word).getD word)).or (meaning word)) text := by
  induction text using word_by_word with
  | nothing => simp only [replace_words_nil]
  | between separator rest solo induction =>
      rw [replace_words_between solo, replace_words_between solo, replace_words_between solo,
        induction]
  | front word rest isWord ends induction =>
      have still : IsWord ((meaning word).getD word) := by
        cases found : meaning word with
        | none => exact isWord
        | some replacement => exact wordy word replacement found
      rw [replace_words_front isWord ends, replace_words_front isWord ends,
        replace_words_front still (ends_word_of_replaced ends), induction]
      cases meaning word <;> cases later _ <;> rfl

/-- Inside a word nothing begins that stands alone. -/
theorem replace_after_wordy (wordy : ∀ character ∈ text, isWordCharacter character = true) :
    replaceWordAfter word replacement true text = text := by
  induction text with
  | nil => rw [replaceWordAfter]
  | cons character rest induction =>
      have all := List.forall_mem_cons.1 wordy
      rw [replaceWordAfter]
      simp [all.1, induction all.2]

theorem replace_word_in_word (isWord : IsWord text) (notEmpty : word ≠ []) :
    replaceWord word replacement text = if text = word then replacement else text := by
  obtain ⟨first, part, rfl⟩ := List.exists_cons_of_ne_nil isWord.notEmpty
  by_cases same : first :: part = word
  · rw [if_pos same, ← same, replace_whole]
  · have wordy := List.forall_mem_cons.1 isWord.wordy
    have unmatched : ¬(!false && word.isPrefixOf (first :: part) &&
        endsWord (part.drop (word.length - 1))) = true := by
      intro matched
      simp only [Bool.and_eq_true] at matched
      obtain ⟨⟨-, front⟩, ends⟩ := matched
      rcases ends_word_cases ends with nothing | ⟨separator, rest, solo, behind⟩
      · have short := List.drop_eq_nil_iff.1 nothing
        have positive := List.length_pos_iff.2 notEmpty
        refine same ((List.isPrefixOf_iff_prefix.1 front).eq_of_length_le ?_).symm
        rw [List.length_cons]
        omega
      · have inside : separator ∈ part := List.mem_of_mem_drop (behind ▸ List.mem_cons_self)
        rw [wordy.2 separator inside] at solo
        cases solo
    rw [if_neg same, replaceWord, replaceWordAfter, if_neg unmatched, wordy.1,
      replace_after_wordy wordy.2]

theorem replace_word_nil : replaceWord word replacement [] = [] := by
  rw [replaceWord, replaceWordAfter]

theorem replace_word_between {separator : Char} (isWord : IsWord word)
    (solo : isWordCharacter separator = false) :
    replaceWord word replacement (separator :: rest) =
      separator :: replaceWord word replacement rest := by
  have around : replaceWord word replacement ([] ++ separator :: rest) =
      replaceWord word replacement [] ++ separator :: replaceWord word replacement rest :=
    replace_around isWord.wordy isWord.notEmpty solo
  rwa [List.nil_append, replace_word_nil, List.nil_append] at around

theorem replace_word_front (isWord : IsWord word) (ends : endsWord rest = true) :
    replaceWord word replacement (text ++ rest) =
      replaceWord word replacement text ++ replaceWord word replacement rest := by
  rcases ends_word_cases ends with rfl | ⟨separator, behind, solo, rfl⟩
  · rw [replace_word_nil, List.append_nil, List.append_nil]
  · rw [replace_around isWord.wordy isWord.notEmpty solo, replace_word_between isWord solo]

/-- Replacing a single word is replacing words of which only that one has a meaning. -/
theorem replace_word_eq (isWord : IsWord word) (replacement text : List Char) :
    replaceWord word replacement text =
      replaceWords (fun other => if other = word then some replacement else none) text := by
  induction text using word_by_word with
  | nothing => rw [replace_word_nil, replace_words_nil]
  | between separator rest solo induction =>
      rw [replace_word_between isWord solo, replace_words_between solo, induction]
  | front other rest isOther ends induction =>
      rw [replace_word_front isWord ends, replace_words_front isOther ends, induction,
        replace_word_in_word isOther isWord.notEmpty]
      split <;> rfl

end GridStore.Text
