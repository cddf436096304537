import GridStore.Proofs.Cell.Order

/-!
The order of sort keys. In either direction it is a total preorder of the keys of all kinds, with
blanks behind the others, in which only equal keys compare as equal. `nan` is no key: it compares
with other numbers as if it equalled them, but equals nothing.
-/

set_option autoImplicit false

namespace GridStore.Cell

def Key : Type := { cell : Cell // cell ≠ .number .nan }

def Key.order (ascending : Bool) (left right : Key) : Ordering :=
  keyOrder ascending left.val right.val

variable {left right : Cell}

theorem key_order_swap (ascending : Bool) (left right : Cell) :
    (keyOrder ascending left right).swap = keyOrder ascending right left := by
  rw [keyOrder, keyOrder]
  cases left.isBlank with
  | true => cases right.isBlank <;> rfl
  | false =>
      cases right.isBlank with
      | true => rfl
      | false =>
          cases ascending with
          | true => exact sort_order_swap left right
          | false => exact congrArg Ordering.swap (sort_order_swap left right)

theorem sort_order_eq_iff (leftReal : left ≠ .number .nan) (rightReal : right ≠ .number .nan) :
    left.sortOrder right = .eq ↔ left.equals right = true := by
  rw [equals_iff, sortOrder]
  rcases compared_or_kinds leftReal rightReal with ⟨order, compared⟩ | differs
  · rw [compare_iff.2 compared, Option.getD_some]
    constructor
    · rintro rfl
      exact compared
    · intro equal
      exact Option.some.inj ((compare_iff.2 compared).symm.trans (compare_iff.2 equal))
  · refine iff_of_false ?_ fun equal => differs equal.kind_rank
    cases found : left.compare right with
    | some order => exact absurd (compare_iff.1 found).kind_rank differs
    | none =>
        rw [Option.getD_none, Nat.compare_eq_eq]
        exact differs

theorem is_blank_of_equals (same : left.equals right = true) : left.isBlank = right.isBlank := by
  have equal := equals_iff.1 same
  rw [Bool.eq_iff_iff]
  exact ⟨fun blank => blank_of_equal blank equal, fun blank => blank_of_equal blank equal.swap⟩

theorem equals_of_blanks (leftBlank : left.isBlank = true) (rightBlank : right.isBlank = true) :
    left.equals right = true :=
  equals_iff.2 (.texts (is_blank_iff.1 leftBlank) (is_blank_iff.1 rightBlank) rfl)

theorem key_order_eq_iff (ascending : Bool) (leftReal : left ≠ .number .nan)
    (rightReal : right ≠ .number .nan) :
    keyOrder ascending left right = .eq ↔ left.equals right = true := by
  rw [keyOrder]
  cases leftBlank : left.isBlank with
  | true =>
      cases rightBlank : right.isBlank with
      | true => exact iff_of_true rfl (equals_of_blanks leftBlank rightBlank)
      | false =>
          have apart : left.isBlank ≠ right.isBlank := by simp [leftBlank, rightBlank]
          exact iff_of_false (fun equal => by cases equal) (mt is_blank_of_equals apart)
  | false =>
      cases rightBlank : right.isBlank with
      | true =>
          have apart : left.isBlank ≠ right.isBlank := by simp [leftBlank, rightBlank]
          exact iff_of_false (fun equal => by cases equal) (mt is_blank_of_equals apart)
      | false =>
          rw [← sort_order_eq_iff leftReal rightReal]
          cases ascending with
          | true => rfl
          | false => exact Ordering.swap_eq_eq

theorem key_order_total (ascending : Bool) (leftReal : left ≠ .number .nan)
    (rightReal : right ≠ .number .nan) :
    (keyOrder ascending left right).isLE = true ∨ (keyOrder ascending right left).isLE = true := by
  rw [key_order_is_le_iff leftReal rightReal, key_order_is_le_iff rightReal leftReal]
  exact in_order_total leftReal rightReal

theorem key_order_le_trans (ascending : Bool) {middle : Cell} (leftReal : left ≠ .number .nan)
    (middleReal : middle ≠ .number .nan) (rightReal : right ≠ .number .nan)
    (below : (keyOrder ascending left middle).isLE = true)
    (above : (keyOrder ascending middle right).isLE = true) :
    (keyOrder ascending left right).isLE = true := by
  rw [key_order_is_le_iff leftReal middleReal] at below
  rw [key_order_is_le_iff middleReal rightReal] at above
  rw [key_order_is_le_iff leftReal rightReal]
  exact in_order_trans below above

instance (ascending : Bool) : Std.TransCmp (Key.order ascending) where
  eq_swap := (key_order_swap ascending _ _).symm
  isLE_trans {left middle right} :=
    key_order_le_trans ascending left.property middle.property right.property

/-- Two comparisons with one result, the second of which goes on where the first one ends. -/
theorem Key.order_trans {ascending : Bool} {first second third : Key} {order : Ordering}
    (before : Key.order ascending first second = order)
    (after : Key.order ascending second third = order) :
    Key.order ascending first third = order := by
  cases order with
  | lt => exact Std.TransCmp.lt_trans before after
  | eq => exact Std.TransCmp.eq_trans before after
  | gt => exact Std.TransCmp.gt_trans before after

/-- What a sort relies on when it compares three keys. -/
structure KeyOrderLaws (ascending : Bool) (left middle right : Cell) : Prop where
  total : (keyOrder ascending left right).isLE = true ∨ (keyOrder ascending right left).isLE = true
  reversed : keyOrder ascending right left = (keyOrder ascending left right).swap
  ordered : (keyOrder ascending left middle).isLE = true →
    (keyOrder ascending middle right).isLE = true → (keyOrder ascending left right).isLE = true
  carried : ∀ order, keyOrder ascending left middle = order →
    keyOrder ascending middle right = order → keyOrder ascending left right = order
  shared : keyOrder ascending left right = .eq ↔ left.equals right = true

/-- In both directions any two keys are in order one way or the other, comparing them from the other
side gives the opposite result, what is found of two keys and of the second and a third one holds of
the first and the third, and only equal keys compare as equal. -/
theorem key_order_is_total_preorder (ascending : Bool) {left middle right : Cell}
    (leftReal : left ≠ .number .nan) (middleReal : middle ≠ .number .nan)
    (rightReal : right ≠ .number .nan) : KeyOrderLaws ascending left middle right where
  total := key_order_total ascending leftReal rightReal
  reversed := (key_order_swap ascending left right).symm
  ordered := key_order_le_trans ascending leftReal middleReal rightReal
  carried order before after := by
    let first : Key := ⟨left, leftReal⟩
    let second : Key := ⟨middle, middleReal⟩
    let third : Key := ⟨right, rightReal⟩
    have before : Key.order ascending first second = order := before
    have after : Key.order ascending second third = order := after
    exact Key.order_trans before after
  shared := key_order_eq_iff ascending leftReal rightReal

theorem mixed_keys_are_totally_preordered :
    (Cell.boolean true ≠ .number .nan ∧ Cell.number (.zero true) ≠ .number .nan ∧
        Cell.string "" ≠ .number .nan) ∧
      keyOrder false (.boolean true) (.number (.zero true)) = .lt ∧
      keyOrder false (.number (.zero true)) (.string "") = .lt ∧
      KeyOrderLaws false (.boolean true) (.number (.zero true)) (.string "") ∧
      keyOrder false (.boolean true) (.string "") = .lt := by
  have real : Cell.boolean true ≠ .number .nan ∧ Cell.number (.zero true) ≠ .number .nan ∧
      Cell.string "" ≠ .number .nan := by decide
  have laws := key_order_is_total_preorder false real.1 real.2.1 real.2.2
  have first : keyOrder false (.boolean true) (.number (.zero true)) = .lt := rfl
  have second : keyOrder false (.number (.zero true)) (.string "") = .lt := rfl
  exact ⟨real, first, second, laws, laws.carried .lt first second⟩

end GridStore.Cell
