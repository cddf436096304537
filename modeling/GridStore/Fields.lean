/-!
Named fields in the order of their names.

An association list is kept sorted by inserting in place, so that two lists with the same
content are the same list. Main statements: insertion keeps the order, and a field reads as the
last value inserted under its name.
-/

set_option autoImplicit false

namespace GridStore.Fields

variable {α : Type}

def Sorted (fields : List (String × α)) : Prop := fields.Pairwise fun left right => left.1 < right.1

def insert (name : String) (value : α) : List (String × α) → List (String × α)
  | [] => [(name, value)]
  | (other, held) :: rest =>
      if name = other then (name, value) :: rest
      else if name < other then (name, value) :: (other, held) :: rest
      else (other, held) :: insert name value rest

def get? (name : String) : List (String × α) → Option α
  | [] => none
  | (other, held) :: rest => if name = other then some held else get? name rest

def erase (name : String) (fields : List (String × α)) : List (String × α) :=
  fields.filter fun field => field.1 ≠ name

def ofList (fields : List (String × α)) : List (String × α) :=
  fields.foldl (fun collected (name, value) => insert name value collected) []

theorem mem_insert {name : String} {value : α} {fields : List (String × α)}
    {field : String × α} (member : field ∈ insert name value fields) :
    field = (name, value) ∨ field ∈ fields := by
  induction fields with
  | nil => simpa [insert] using member
  | cons head rest induction =>
      obtain ⟨other, held⟩ := head
      rw [insert] at member
      split at member
      · simp only [List.mem_cons] at member ⊢
        exact member.imp_right Or.inr
      · split at member
        · simpa using member
        · simp only [List.mem_cons] at member ⊢
          rcases member with same | deeper
          · exact Or.inr (Or.inl same)
          · exact (induction deeper).imp_right Or.inr

theorem sorted_insert {name : String} {value : α} {fields : List (String × α)}
    (sorted : Sorted fields) : Sorted (insert name value fields) := by
  induction fields with
  | nil => simp [insert, Sorted]
  | cons head rest induction =>
      obtain ⟨other, held⟩ := head
      obtain ⟨above, sortedRest⟩ := List.pairwise_cons.1 sorted
      rw [insert]
      split
      · rename_i same
        subst same
        exact List.pairwise_cons.2 ⟨above, sortedRest⟩
      · rename_i differs
        split
        · rename_i before
          refine List.pairwise_cons.2 ⟨fun field member => ?_, sorted⟩
          rcases List.mem_cons.1 member with rfl | deeper
          · exact before
          · exact String.lt_trans before (above field deeper)
        · rename_i notBefore
          refine List.pairwise_cons.2 ⟨fun field member => ?_, induction sortedRest⟩
          rcases mem_insert member with rfl | held
          · rcases String.le_total other name with less | greater
            · exact Decidable.byContradiction fun notLess =>
                differs (String.le_antisymm (String.not_lt.1 notLess) less)
            · exact absurd (String.le_antisymm (String.not_lt.1 notBefore) greater)
                (fun same => differs same.symm)
          · exact above field held

theorem sorted_erase {name : String} {fields : List (String × α)} (sorted : Sorted fields) :
    Sorted (erase name fields) := List.Pairwise.filter _ sorted

theorem sorted_ofList (fields : List (String × α)) : Sorted (ofList fields) := by
  have keeps : ∀ (pending collected : List (String × α)), Sorted collected →
      Sorted (pending.foldl (fun collected (name, value) => insert name value collected)
        collected) := by
    intro pending
    induction pending with
    | nil => exact fun _ sorted => sorted
    | cons head rest induction => exact fun _ sorted => induction _ (sorted_insert sorted)
  exact keeps fields [] List.Pairwise.nil

theorem get?_insert (name wanted : String) (value : α) (fields : List (String × α)) :
    get? wanted (insert name value fields) =
      if wanted = name then some value else get? wanted fields := by
  induction fields with
  | nil => simp [insert, get?]
  | cons head rest induction =>
      obtain ⟨other, held⟩ := head
      rw [insert]
      by_cases same : name = other
      · subst same
        by_cases found : wanted = name <;> simp [get?, found]
      · rw [if_neg same]
        by_cases before : name < other
        · rw [if_pos before]
          simp only [get?]
        · rw [if_neg before]
          simp only [get?, induction]
          by_cases found : wanted = name
          · simp [found, same]
          · simp [found]

theorem get?_ofList (wanted : String) (fields : List (String × α)) :
    get? wanted (ofList fields) =
      (fields.reverse.find? fun field => field.1 == wanted).map Prod.snd := by
  have collected : ∀ collected : List (String × α),
      get? wanted (fields.foldl (fun collected (name, value) => insert name value collected)
        collected) =
        ((fields.reverse.find? fun field => field.1 == wanted).map Prod.snd).or
          (get? wanted collected) := by
    induction fields with
    | nil => exact fun collected => rfl
    | cons head rest induction =>
        intro collected
        rw [List.foldl_cons, induction, get?_insert, List.reverse_cons, List.find?_append]
        by_cases same : wanted = head.1
        · subst same
          cases rest.reverse.find? fun field => field.1 == head.1 <;> simp
        · have other : ¬head.1 = wanted := Ne.symm same
          cases rest.reverse.find? fun field => field.1 == wanted <;> simp [same, other]
  rw [ofList, collected]
  exact Option.or_none

theorem get?_eq_some_iff {name : String} {value : α} {fields : List (String × α)}
    (sorted : Sorted fields) : get? name fields = some value ↔ (name, value) ∈ fields := by
  induction fields with
  | nil => simp [get?]
  | cons head rest induction =>
      obtain ⟨other, held⟩ := head
      obtain ⟨above, sortedRest⟩ := List.pairwise_cons.1 sorted
      rw [get?]
      split
      · rename_i same
        subst same
        have once : (name, value) ∉ rest := fun member =>
          String.lt_irrefl name (above (name, value) member)
        simp [once, eq_comm]
      · rename_i differs
        rw [induction sortedRest]
        simp [differs]

end GridStore.Fields
