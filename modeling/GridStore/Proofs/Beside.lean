import Mathlib.Data.List.Forall2

/-!
Lists that go together element by element, as a list and the results of a step on its elements do.
A step that may fail is run on one element after another, and the first failure is that of the
whole run.
-/

set_option autoImplicit false

namespace GridStore

section Beside

variable {α β : Type} {related : α → β → Prop} {test : α → Bool} {other : β → Bool}
  {lefts : List α} {rights : List β}

theorem partner_of_beside (beside : List.Forall₂ related lefts rights) {left : α}
    (member : left ∈ lefts) : ∃ right ∈ rights, related left right := by
  induction beside with
  | nil => cases member
  | cons here later induction =>
      cases member with
      | head => exact ⟨_, List.mem_cons_self, here⟩
      | tail _ deeper =>
          obtain ⟨right, listed, holds⟩ := induction deeper
          exact ⟨right, List.mem_cons_of_mem _ listed, holds⟩

theorem beside_trans {γ : Type} {further : β → γ → Prop} {others : List γ}
    (beside : List.Forall₂ related lefts rights) (past : List.Forall₂ further rights others) :
    List.Forall₂ (fun left other => ∃ right, related left right ∧ further right other) lefts
      others := by
  induction beside generalizing others with
  | nil =>
      cases past
      exact .nil
  | cons here later induction =>
      cases past with
      | cons there more => exact .cons ⟨_, here, there⟩ (induction more)

theorem any_of_beside (beside : List.Forall₂ related lefts rights)
    (agree : ∀ left right, related left right → test left = other right) :
    lefts.any test = rights.any other := by
  induction beside with
  | nil => rfl
  | cons here later induction => rw [List.any_cons, List.any_cons, agree _ _ here, induction]

theorem all_of_beside (beside : List.Forall₂ related lefts rights)
    (agree : ∀ left right, related left right → test left = other right) :
    lefts.all test = rights.all other := by
  induction beside with
  | nil => rfl
  | cons here later induction => rw [List.all_cons, List.all_cons, agree _ _ here, induction]

end Beside

section Steps

variable {α β ε : Type}

theorem except_bind_ok_iff {first : Except ε α} {next : α → Except ε β} {result : β} :
    (first >>= next) = .ok result ↔ ∃ value, first = .ok value ∧ next value = .ok result := by
  cases first with
  | error error => simp [bind, Except.bind]
  | ok value => simp [bind, Except.bind]

theorem except_bind_error_iff {first : Except ε α} {next : α → Except ε β} {cause : ε} :
    (first >>= next) = .error cause ↔
      first = .error cause ∨ ∃ value, first = .ok value ∧ next value = .error cause := by
  cases first with
  | error error => simp [bind, Except.bind]
  | ok value => simp [bind, Except.bind]

theorem beside_of_map_m {items : List α} {results : List β} {step : α → Except ε β}
    (ran : items.mapM step = .ok results) :
    List.Forall₂ (fun item result => step item = .ok result) items results := by
  induction items generalizing results with
  | nil =>
      cases ran
      exact .nil
  | cons item rest induction =>
      rw [List.mapM_cons] at ran
      obtain ⟨result, stepped, ran⟩ := except_bind_ok_iff.1 ran
      obtain ⟨others, listed, ran⟩ := except_bind_ok_iff.1 ran
      cases ran
      exact .cons stepped (induction listed)

theorem failed_of_map_m {items : List α} {step : α → Except ε β} {cause : ε}
    (failed : items.mapM step = .error cause) : ∃ item ∈ items, step item = .error cause := by
  induction items with
  | nil => cases failed
  | cons item rest induction =>
      rw [List.mapM_cons] at failed
      rcases except_bind_error_iff.1 failed with here | ⟨result, -, failed⟩
      · exact ⟨item, List.mem_cons_self, here⟩
      · rcases except_bind_error_iff.1 failed with there | ⟨results, -, ended⟩
        · obtain ⟨later, member, refused⟩ := induction there
          exact ⟨later, List.mem_cons_of_mem _ member, refused⟩
        · cases ended

end Steps

end GridStore
