import GridStore.Entity
import GridStore.Proofs.Cell.Order

/-!
Canonical cells, which have a blank for every empty text. Nothing that is done with cells tells a
cell from its canonical form: not comparing them, not sorting by them and not showing them.
-/

set_option autoImplicit false

namespace GridStore

namespace Cell

def canonical (cell : Cell) : Cell := if cell.isBlank then .empty else cell

/-- The same cell, or a blank and an empty text. -/
inductive Alike : Cell → Cell → Prop where
  | same (cell : Cell) : Alike cell cell
  | blankForText : Alike .empty (.string "")
  | textForBlank : Alike (.string "") .empty

variable {left right : Cell}

theorem canonical_cases (cell : Cell) :
    cell.canonical = cell ∨ cell = .string "" ∧ cell.canonical = .empty := by
  cases cell with
  | string value =>
      by_cases nothing : value = ""
      · exact Or.inr ⟨by rw [nothing], by rw [nothing]; rfl⟩
      · exact Or.inl (if_neg (by simpa [isBlank] using nothing))
  | _ => exact Or.inl rfl

theorem canonical_eq_iff : left.canonical = right.canonical ↔ Alike left right := by
  constructor
  · intro equal
    rcases canonical_cases left with sameLeft | ⟨rfl, leftBlank⟩
    · rcases canonical_cases right with sameRight | ⟨rfl, rightBlank⟩
      · rw [sameLeft, sameRight] at equal
        exact equal ▸ .same left
      · rw [sameLeft, rightBlank] at equal
        exact equal ▸ .blankForText
    · rcases canonical_cases right with sameRight | ⟨rfl, -⟩
      · rw [leftBlank, sameRight] at equal
        exact equal ▸ .textForBlank
      · exact .same _
  · intro alike
    cases alike <;> rfl

theorem canonical_alike (cell : Cell) : Alike cell.canonical cell := by
  rcases canonical_cases cell with same | ⟨rfl, blank⟩
  · rw [same]
    exact .same cell
  · rw [blank]
    exact .blankForText

/-- What is the same for a blank and an empty text is the same for a cell and its canonical form. -/
theorem canonical_congr {α : Type} (view : Cell → α) (agrees : view .empty = view (.string ""))
    (cell : Cell) : view cell.canonical = view cell := by
  rcases canonical_cases cell with same | ⟨rfl, blank⟩
  · rw [same]
  · rw [blank, agrees]

@[simp]
theorem is_blank_canonical (cell : Cell) : cell.canonical.isBlank = cell.isBlank :=
  canonical_congr isBlank rfl cell

@[simp]
theorem kind_rank_canonical (cell : Cell) : cell.canonical.kindRank = cell.kindRank :=
  canonical_congr kindRank rfl cell

@[simp]
theorem display_canonical (cell : Cell) : cell.canonical.display = cell.display :=
  canonical_congr display rfl cell

@[simp]
theorem compare_canonical (left right : Cell) :
    left.canonical.compare right.canonical = left.compare right := by
  have first := canonical_congr (fun cell => cell.compare right.canonical)
    (by cases right.canonical <;> rfl) left
  have second := canonical_congr (fun cell => left.compare cell) (by cases left <;> rfl) right
  exact first.trans second

@[simp]
theorem equals_canonical (left right : Cell) :
    left.canonical.equals right.canonical = left.equals right := by
  rw [Bool.eq_iff_iff, equals_iff, equals_iff, ← compare_iff, ← compare_iff, compare_canonical]

@[simp]
theorem key_order_canonical (ascending : Bool) (left right : Cell) :
    keyOrder ascending left.canonical right.canonical = keyOrder ascending left right := by
  simp only [keyOrder, sortOrder, is_blank_canonical, compare_canonical, kind_rank_canonical]

@[simp]
theorem compares_as_canonical (accepted : List Ordering) (left right : Cell) :
    left.canonical.comparesAs accepted right.canonical = left.comparesAs accepted right := by
  rw [comparesAs, comparesAs, compare_canonical]

theorem equals_self {cell : Cell} (real : cell ≠ .number .nan) : cell.equals cell = true := by
  rw [equals_iff]
  cases cell with
  | boolean value => exact .booleans Std.ReflOrd.compare_self
  | number value =>
      have finite := real_of_number real
      exact .numbers ⟨finite, finite⟩ Std.ReflOrd.compare_self
  | date value => exact .dates Std.ReflOrd.compare_self
  | empty | string => exact .texts rfl rfl Std.ReflOrd.compare_self

theorem equals_of_canonical (same : left.canonical = right.canonical)
    (real : left ≠ .number .nan) : left.equals right = true := by
  have blanks : left.canonical ≠ .number .nan := by
    rcases canonical_cases left with kept | ⟨-, blank⟩
    · rwa [kept]
    · rw [blank]
      simp
  rw [← equals_canonical, ← same]
  exact equals_self blanks

end Cell

theorem beside_of_map_eq {α β : Type} {image : α → β} {test : α → α → Bool} {left right : List α}
    (same : left.map image = right.map image)
    (pairs : ∀ first ∈ left, ∀ second, image first = image second → test first second = true) :
    left.length = right.length ∧
      (left.zip right).all (fun (first, second) => test first second) = true := by
  induction left generalizing right with
  | nil =>
      have nothing : right = [] := List.map_eq_nil_iff.1 same.symm
      rw [nothing]
      exact ⟨rfl, rfl⟩
  | cons first rest induction =>
      cases right with
      | nil => cases same
      | cons second others =>
          obtain ⟨head, tail⟩ := List.cons.inj same
          obtain ⟨here, later⟩ := List.forall_mem_cons.1 pairs
          obtain ⟨length, equal⟩ := induction tail later
          refine ⟨congrArg (· + 1) length, ?_⟩
          rw [List.zip_cons_cons, List.all_cons, equal, Bool.and_true]
          exact here second head

def Row.canonical (row : Row) : Row := row.map Cell.canonical

theorem Row.get_d_canonical (row : Row) (index : Nat) :
    (Row.canonical row).getD index .empty = (row.getD index .empty).canonical := by
  rw [Row.canonical, List.getD_eq_getElem?_getD, List.getElem?_map, List.getD_eq_getElem?_getD]
  cases row[index]? <;> rfl

namespace Fields

variable {α β : Type} (change : α → β)

def mapValues (fields : List (String × α)) : List (String × β) :=
  fields.map fun field => (field.1, change field.2)

theorem sorted_map_values {fields : List (String × α)} (sorted : Sorted fields) :
    Sorted (mapValues change fields) :=
  List.pairwise_map.2 sorted

theorem get_map_values (name : String) (fields : List (String × α)) :
    get? name (mapValues change fields) = (get? name fields).map change := by
  induction fields with
  | nil => rfl
  | cons head rest induction =>
      obtain ⟨other, held⟩ := head
      rw [mapValues, List.map_cons, get?, get?]
      split
      · rfl
      · exact induction

theorem insert_map_values (name : String) (value : α) (fields : List (String × α)) :
    insert name (change value) (mapValues change fields) =
      mapValues change (insert name value fields) := by
  induction fields with
  | nil => rfl
  | cons head rest induction =>
      obtain ⟨other, held⟩ := head
      rw [mapValues, List.map_cons, insert, insert]
      split
      · rfl
      · split
        · rfl
        · exact congrArg ((other, change held) :: ·) induction

theorem inserted_map_values (fields collected : List (String × α)) :
    (mapValues change fields).foldl (fun collected (name, value) => insert name value collected)
        (mapValues change collected) =
      mapValues change (fields.foldl (fun collected (name, value) => insert name value collected)
        collected) := by
  induction fields generalizing collected with
  | nil => rfl
  | cons head rest induction =>
      have here := insert_map_values change head.1 head.2 collected
      rw [List.foldl_cons, ← induction, ← here]
      rfl

theorem of_list_map_values (fields : List (String × α)) :
    ofList (mapValues change fields) = mapValues change (ofList fields) :=
  inserted_map_values change fields []

end Fields

namespace Entity

def canonical (entity : Entity) : Entity :=
  ⟨Fields.mapValues Cell.canonical entity.fields, Fields.sorted_map_values _ entity.sorted⟩

theorem get_canonical (entity : Entity) (field : String) :
    entity.canonical.get? field = (entity.get? field).map Cell.canonical :=
  Fields.get_map_values _ field entity.fields

theorem of_list_canonical (fields : List (String × Cell)) :
    ofList (Fields.mapValues Cell.canonical fields) = (ofList fields).canonical := by
  simp only [ofList, canonical, Fields.of_list_map_values]

def IsReal (entity : Entity) : Prop := ∀ field ∈ entity.fields, field.2 ≠ .number .nan

theorem equals_of_canonical {left right : Entity} (same : left.canonical = right.canonical)
    (real : left.IsReal) : left.equals right = true := by
  have fields : left.fields.map (fun field => (field.1, field.2.canonical)) =
      right.fields.map fun field => (field.1, field.2.canonical) := congrArg Entity.fields same
  have pairs : ∀ first ∈ left.fields, ∀ second : String × Cell,
      (first.1, first.2.canonical) = (second.1, second.2.canonical) →
        (first.1 == second.1 && first.2.equals second.2) = true := by
    intro first member second same
    obtain ⟨name, cell⟩ := Prod.mk.inj same
    rw [name, Cell.equals_of_canonical cell (real first member)]
    simp
  obtain ⟨length, equal⟩ := beside_of_map_eq fields pairs
  rw [equals, Bool.and_eq_true, beq_iff_eq]
  exact ⟨length, equal⟩

end Entity

end GridStore
