import GridStore.Proofs.Text.Run

/-!
Replacing words in texts that fall into pieces: a character that belongs to no word keeps what is
before it and what is behind it apart, so that each piece can be looked at alone.
-/

set_option autoImplicit false

namespace GridStore.Text

variable {word replacement text rest : List Char} {separator : Char}

theorem replace_after_unmatched (inWord : Bool)
    (unmatched : occursIn word text = false) :
    replaceWordAfter word replacement inWord text = text := by
  induction text generalizing inWord with
  | nil => rw [replaceWordAfter]
  | cons character rest induction =>
      rw [occursIn, Bool.or_eq_false_iff] at unmatched
      rw [replaceWordAfter, unmatched.1, induction _ unmatched.2]
      simp

theorem replace_unmatched (unmatched : occursIn word text = false) :
    replaceWord word replacement text = text := replace_after_unmatched false unmatched

theorem front_before_separator (absent : separator ∉ word)
    (front : word <+: text ++ separator :: rest) : word <+: text := by
  have before : text <+: text ++ separator :: rest := List.prefix_append _ _
  rcases Nat.le_total word.length text.length with shorter | longer
  · exact List.prefix_of_prefix_length_le front before shorter
  · obtain ⟨behind, rfl⟩ := List.prefix_of_prefix_length_le before front longer
    cases behind with
    | nil => exact ⟨[], by simp⟩
    | cons first behind =>
        rw [List.prefix_append_right_inj, List.cons_prefix_cons] at front
        exact absurd (List.mem_append_right _ (front.1 ▸ List.mem_cons_self)) absent

theorem front_around_separator (absent : separator ∉ word) :
    word.isPrefixOf (text ++ separator :: rest) = word.isPrefixOf text := by
  rw [Bool.eq_iff_iff, List.isPrefixOf_iff_prefix, List.isPrefixOf_iff_prefix]
  constructor
  · exact front_before_separator absent
  · intro front
    exact front.trans (List.prefix_append _ _)

theorem ends_word_at_separator (solo : isWordCharacter separator = false) :
    endsWord (text ++ separator :: rest) = endsWord text := by
  cases text with
  | nil => simp [endsWord, solo]
  | cons character text => rfl

theorem behind_before_separator {character : Char} (front : word <+: character :: text) :
    (text ++ separator :: rest).drop (word.length - 1) =
      text.drop (word.length - 1) ++ separator :: rest := by
  have shorter := front.length_le
  have inside : word.length - 1 - text.length = 0 := by
    rw [List.length_cons] at shorter
    omega
  rw [List.drop_append, inside, List.drop_zero]

theorem replace_after_around (wordy : ∀ character ∈ word, isWordCharacter character = true)
    (nonempty : word ≠ []) (solo : isWordCharacter separator = false) (inWord : Bool) :
    replaceWordAfter word replacement inWord (text ++ separator :: rest) =
      replaceWordAfter word replacement inWord text ++
        separator :: replaceWord word replacement rest := by
  have absent : separator ∉ word := fun member => by
    rw [wordy separator member] at solo
    cases solo
  have apart : ∀ text : List Char, word.isPrefixOf (text ++ separator :: rest) =
      word.isPrefixOf text := fun _ => front_around_separator absent
  induction inWord, text using replaceWordAfter.induct word with
  | case1 inWord =>
      have elsewhere : word.isPrefixOf (separator :: rest) = false := by
        rw [← List.nil_append (separator :: rest), apart]
        cases word with
        | nil => exact absurd rfl nonempty
        | cons first word => rfl
      rw [List.nil_append, replaceWordAfter, replaceWordAfter, elsewhere, solo]
      simp [replaceWord]
  | case2 inWord character text behind matched induction =>
      have front : word <+: character :: text := by
        simp only [Bool.and_eq_true] at matched
        exact List.isPrefixOf_iff_prefix.1 matched.1.2
      rw [List.cons_append, replaceWordAfter, replaceWordAfter, behind_before_separator front,
        ends_word_at_separator solo, ← List.cons_append, apart, if_pos matched, if_pos matched,
        induction, List.append_assoc]
  | case3 inWord character text behind unmatched induction =>
      have other : ¬(!inWord && word.isPrefixOf (character :: text) &&
          endsWord ((text ++ separator :: rest).drop (word.length - 1))) = true := by
        intro matched
        apply unmatched
        simp only [Bool.and_eq_true] at matched ⊢
        rw [behind_before_separator (List.isPrefixOf_iff_prefix.1 matched.1.2),
          ends_word_at_separator solo] at matched
        exact matched
      rw [List.cons_append, replaceWordAfter, replaceWordAfter, ← List.cons_append, apart,
        if_neg unmatched, if_neg other, induction, List.cons_append]

theorem replace_around (wordy : ∀ character ∈ word, isWordCharacter character = true)
    (nonempty : word ≠ []) (solo : isWordCharacter separator = false) :
    replaceWord word replacement (text ++ separator :: rest) =
      replaceWord word replacement text ++ separator :: replaceWord word replacement rest :=
  replace_after_around wordy nonempty solo false

theorem replace_whole {first : Char} {part : List Char} :
    replaceWord (first :: part) replacement (first :: part) = replacement := by
  have nothing : first ∉ ([] : List Char) := List.not_mem_nil
  have replaced : replaceWord (first :: part) replacement (first :: part ++ []) = _ :=
    replace_leading_word replacement nothing rfl
  rwa [List.append_nil, List.append_nil] at replaced

theorem blanks_apart_from_words : (blankRanges.all fun blanks => wordRanges.all fun ranges =>
    ranges.all fun words => decide (blanks.2 < words.1 ∨ words.2 < blanks.1)) = true := by
  decide +kernel

/-- No blank belongs to a word. -/
theorem is_word_blank {character : Char} (blank : isBlank character = true) :
    isWordCharacter character = false := by
  obtain ⟨blanks, listed, inBlanks⟩ := List.any_eq_true.1 blank
  rw [Bool.eq_false_iff]
  intro wordy
  obtain ⟨ranges, listedRanges, inRanges⟩ := List.any_eq_true.1 wordy
  obtain ⟨words, listedWords, inWords⟩ := List.any_eq_true.1 inRanges
  have apart := List.all_eq_true.1 blanks_apart_from_words blanks listed
  have apartWords := List.all_eq_true.1 (List.all_eq_true.1 apart ranges listedRanges) words
    listedWords
  simp only [Bool.and_eq_true, decide_eq_true_eq] at inBlanks inWords apartWords
  omega

end GridStore.Text
