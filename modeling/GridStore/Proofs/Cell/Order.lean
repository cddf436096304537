import GridStore.Grid.Sort

/-!
Equality and order of cells, kind by kind. A blank counts as the empty text, both zeros are one
number, and `nan` is neither equal to nor ordered against anything.

Sorting extends this order over the kinds and puts blanks behind everything else, whatever the
direction. Without `nan` among the keys any two keys are in order one way or the other, and order
carries over from key to key.
-/

set_option autoImplicit false

namespace GridStore

theorem Number.compare_some_iff {left right : Number} {order : Ordering} :
    left.compare right = some order ↔ (left.isNaN = false ∧ right.isNaN = false) ∧
      Ord.compare left.position right.position = order := by
  rw [compare]
  cases left.isNaN <;> cases right.isNaN <;> simp

theorem DateTime.eq_of_fields {left right : DateTime} (same : left.fields = right.fields) :
    left = right := by
  cases left
  cases right
  simpa [fields, Int.natCast_inj] using same

namespace Cell

/-- Cells of one kind, and the order of their values. -/
inductive Compared : Cell → Cell → Ordering → Prop where
  | booleans {left right : Bool} {order : Ordering} (values : Ord.compare left right = order) :
      Compared (.boolean left) (.boolean right) order
  | numbers {left right : Number} {order : Ordering}
      (real : left.isNaN = false ∧ right.isNaN = false)
      (values : Ord.compare left.position right.position = order) :
      Compared (.number left) (.number right) order
  | dates {left right : DateTime} {order : Ordering}
      (values : Ord.compare left.fields right.fields = order) :
      Compared (.date left) (.date right) order
  | texts {left right : Cell} {first second : String} {order : Ordering}
      (leftText : left.asString? = some first) (rightText : right.asString? = some second)
      (values : Ord.compare first second = order) : Compared left right order

variable {left middle right : Cell} {order next : Ordering}

theorem compare_iff : left.compare right = some order ↔ Compared left right order := by
  constructor
  · intro compared
    cases left with
    | boolean value =>
        cases right with
        | boolean other => exact .booleans (Option.some.inj compared)
        | _ => cases compared
    | number value =>
        cases right with
        | number other =>
            obtain ⟨real, values⟩ := Number.compare_some_iff.1 compared
            exact .numbers real values
        | _ => cases compared
    | date value =>
        cases right with
        | date other => exact .dates (Option.some.inj compared)
        | _ => cases compared
    | _ =>
        cases right with
        | empty | string => exact .texts rfl rfl (Option.some.inj compared)
        | _ => cases compared
  · intro compared
    cases compared with
    | booleans values | dates values => exact congrArg some values
    | numbers real values => exact Number.compare_some_iff.2 ⟨real, values⟩
    | texts leftText rightText values =>
        cases left <;> cases leftText <;> cases right <;> cases rightText <;>
          exact congrArg some values

namespace Compared

theorem swap (compared : Compared left right order) : Compared right left order.swap := by
  cases compared with
  | booleans values => exact .booleans (values ▸ Std.OrientedOrd.eq_swap)
  | numbers real values => exact .numbers real.symm (values ▸ Std.OrientedOrd.eq_swap)
  | dates values => exact .dates (values ▸ Std.OrientedOrd.eq_swap)
  | texts leftText rightText values =>
      exact .texts rightText leftText (values ▸ Std.OrientedOrd.eq_swap)

theorem trans (first : Compared left middle order) (second : Compared middle right next)
    (below : order.isLE = true) (above : next.isLE = true) :
    ∃ last, last.isLE = true ∧ Compared left right last := by
  cases first with
  | booleans values =>
      cases second with
      | booleans others =>
          subst values others
          exact ⟨_, Std.TransOrd.isLE_trans below above, .booleans rfl⟩
      | texts leftText => cases leftText
  | numbers real values =>
      cases second with
      | numbers others rest =>
          subst values rest
          exact ⟨_, Std.TransOrd.isLE_trans below above, .numbers ⟨real.1, others.2⟩ rfl⟩
      | texts leftText => cases leftText
  | dates values =>
      cases second with
      | dates others =>
          subst values others
          exact ⟨_, Std.TransOrd.isLE_trans below above, .dates rfl⟩
      | texts leftText => cases leftText
  | texts leftText middleText values =>
      cases second with
      | texts sameText rightText others =>
          obtain rfl := Option.some.inj (middleText.symm.trans sameText)
          subst values others
          exact ⟨_, Std.TransOrd.isLE_trans below above, .texts leftText rightText rfl⟩
      | _ => cases middleText

theorem kind_rank (compared : Compared left right order) : left.kindRank = right.kindRank := by
  cases compared with
  | texts leftText rightText values =>
      cases left <;> cases leftText <;> cases right <;> cases rightText <;> rfl
  | _ => rfl

end Compared

theorem equals_iff : left.equals right = true ↔ Compared left right .eq := by
  constructor
  · intro same
    cases left with
    | boolean value =>
        cases right with
        | boolean other => exact .booleans (Std.compare_eq_iff_eq.2 (eq_of_beq same))
        | _ => cases same
    | number value =>
        cases right with
        | number other =>
            obtain ⟨real, values⟩ := Number.compare_some_iff.1 (eq_of_beq same)
            exact .numbers real values
        | _ => cases same
    | date value =>
        cases right with
        | date other => exact .dates (Std.compare_eq_iff_eq.2 (congrArg _ (eq_of_beq same)))
        | _ => cases same
    | _ =>
        cases right with
        | empty | string => exact .texts rfl rfl (Std.compare_eq_iff_eq.2 (eq_of_beq same))
        | _ => cases same
  · intro compared
    cases compared with
    | booleans values => exact beq_iff_eq.2 (Std.compare_eq_iff_eq.1 values)
    | numbers real values => exact beq_iff_eq.2 (Number.compare_some_iff.2 ⟨real, values⟩)
    | dates values =>
        exact beq_iff_eq.2 (DateTime.eq_of_fields (Std.compare_eq_iff_eq.1 values))
    | texts leftText rightText values =>
        cases left <;> cases leftText <;> cases right <;> cases rightText <;>
          exact beq_iff_eq.2 (Std.compare_eq_iff_eq.1 values)

theorem Compared.congr_left {other : Cell} (same : Compared left other .eq)
    (compared : Compared left right order) : Compared other right order := by
  cases same with
  | booleans equal =>
      cases compared with
      | booleans values => exact .booleans ((Std.TransCmp.congr_left equal).symm.trans values)
      | texts leftText => cases leftText
  | numbers real equal =>
      cases compared with
      | numbers others values =>
          exact .numbers ⟨real.2, others.2⟩ ((Std.TransCmp.congr_left equal).symm.trans values)
      | texts leftText => cases leftText
  | dates equal =>
      cases compared with
      | dates values => exact .dates ((Std.TransCmp.congr_left equal).symm.trans values)
      | texts leftText => cases leftText
  | texts leftText otherText equal =>
      cases compared with
      | texts sameText rightText values =>
          obtain rfl := Option.some.inj (leftText.symm.trans sameText)
          exact .texts otherText rightText ((Std.TransCmp.congr_left equal).symm.trans values)
      | _ => cases leftText

theorem Compared.congr_right {other : Cell} (same : Compared right other .eq)
    (compared : Compared left right order) : Compared left other order := by
  have swapped := (same.congr_left compared.swap).swap
  rwa [Ordering.swap_swap] at swapped

/-- Order does not tell equal cells apart, whichever of the two sides they stand on. -/
theorem compare_congr {other another : Cell} (first : left.equals other = true)
    (second : right.equals another = true) : left.compare right = other.compare another := by
  rw [equals_iff] at first second
  apply Option.ext
  intro order
  rw [compare_iff, compare_iff]
  constructor
  · intro compared
    exact second.congr_right (first.congr_left compared)
  · intro compared
    exact second.swap.congr_right (first.swap.congr_left compared)

theorem equals_congr {other another : Cell} (first : left.equals other = true)
    (second : right.equals another = true) : left.equals right = other.equals another := by
  rw [Bool.eq_iff_iff, equals_iff, equals_iff, ← compare_iff, ← compare_iff,
    compare_congr first second]

/-- Cells in ascending order: by kind, and by value within a kind. -/
inductive Ascends : Cell → Cell → Prop where
  | kinds {left right : Cell} (earlier : left.kindRank < right.kindRank) : Ascends left right
  | values {left right : Cell} {order : Ordering} (compared : Compared left right order)
      (notAbove : order.isLE = true) : Ascends left right

theorem ascends_trans (first : Ascends left middle) (second : Ascends middle right) :
    Ascends left right := by
  cases first with
  | kinds earlier =>
      cases second with
      | kinds later => exact .kinds (Nat.lt_trans earlier later)
      | values compared => exact .kinds (compared.kind_rank ▸ earlier)
  | values compared notAbove =>
      cases second with
      | kinds later => exact .kinds (compared.kind_rank ▸ later)
      | values others above =>
          obtain ⟨order, last, reached⟩ := compared.trans others notAbove above
          exact .values reached last

theorem real_of_number {value : Number} (real : number value ≠ number .nan) :
    value.isNaN = false := by
  cases value with
  | nan => exact absurd rfl real
  | infinite | finite => rfl

theorem compared_or_kinds (leftReal : left ≠ .number .nan) (rightReal : right ≠ .number .nan) :
    (∃ order, Compared left right order) ∨ left.kindRank ≠ right.kindRank := by
  cases left with
  | boolean value =>
      cases right with
      | boolean other => exact Or.inl ⟨_, .booleans rfl⟩
      | _ => exact Or.inr (by simp [kindRank])
  | number value =>
      cases right with
      | number other =>
          exact Or.inl ⟨_, .numbers ⟨real_of_number leftReal, real_of_number rightReal⟩ rfl⟩
      | _ => exact Or.inr (by simp [kindRank])
  | date value =>
      cases right with
      | date other => exact Or.inl ⟨_, .dates rfl⟩
      | _ => exact Or.inr (by simp [kindRank])
  | _ =>
      cases right with
      | empty | string => exact Or.inl ⟨_, .texts rfl rfl rfl⟩
      | _ => exact Or.inr (by simp [kindRank])

theorem ascends_total (leftReal : left ≠ .number .nan) (rightReal : right ≠ .number .nan) :
    Ascends left right ∨ Ascends right left := by
  rcases compared_or_kinds leftReal rightReal with ⟨order, compared⟩ | differs
  · cases order with
    | lt | eq => exact Or.inl (.values compared rfl)
    | gt => exact Or.inr (.values compared.swap rfl)
  · rcases Nat.lt_or_gt_of_ne differs with earlier | later
    · exact Or.inl (.kinds earlier)
    · exact Or.inr (.kinds later)

theorem compare_swap (left right : Cell) :
    (left.compare right).map Ordering.swap = right.compare left := by
  cases compared : left.compare right with
  | some order => exact (compare_iff.2 (compare_iff.1 compared).swap).symm
  | none =>
      cases reversed : right.compare left with
      | none => rfl
      | some order =>
          rw [compare_iff.2 (compare_iff.1 reversed).swap] at compared
          cases compared

theorem sort_order_swap (left right : Cell) :
    (left.sortOrder right).swap = right.sortOrder left := by
  rw [sortOrder, sortOrder, ← compare_swap left right]
  cases left.compare right with
  | some order => rfl
  | none => exact Std.OrientedOrd.eq_swap.symm

theorem sort_order_is_le_iff (leftReal : left ≠ .number .nan) (rightReal : right ≠ .number .nan) :
    (left.sortOrder right).isLE = true ↔ Ascends left right := by
  rcases compared_or_kinds leftReal rightReal with ⟨order, compared⟩ | differs
  · have ordered : left.sortOrder right = order := by
      rw [sortOrder, compare_iff.2 compared, Option.getD_some]
    rw [ordered]
    constructor
    · exact .values compared
    · intro ascends
      cases ascends with
      | kinds earlier => exact absurd compared.kind_rank (Nat.ne_of_lt earlier)
      | values other notAbove =>
          have same := (compare_iff.2 compared).symm.trans (compare_iff.2 other)
          rwa [Option.some.inj same]
  · have unordered : left.compare right = none := by
      cases compared : left.compare right with
      | none => rfl
      | some order => exact absurd (compare_iff.1 compared).kind_rank differs
    rw [sortOrder, unordered, Option.getD_none, Nat.isLE_compare]
    constructor
    · exact fun notAbove => .kinds (Nat.lt_of_le_of_ne notAbove differs)
    · intro ascends
      cases ascends with
      | kinds earlier => exact Nat.le_of_lt earlier
      | values compared => exact absurd compared.kind_rank differs

/-- Sort keys in order: content in the direction asked for, and blanks behind all content. -/
inductive InOrder (ascending : Bool) : Cell → Cell → Prop where
  | blank {left right : Cell} (last : right.isBlank = true) : InOrder ascending left right
  | upward {left right : Cell} (up : ascending = true)
      (content : left.isBlank = false ∧ right.isBlank = false) (ordered : Ascends left right) :
      InOrder ascending left right
  | downward {left right : Cell} (down : ascending = false)
      (content : left.isBlank = false ∧ right.isBlank = false) (ordered : Ascends right left) :
      InOrder ascending left right

variable {ascending : Bool}

theorem in_order_trans (first : InOrder ascending left middle)
    (second : InOrder ascending middle right) : InOrder ascending left right := by
  cases second with
  | blank last => exact .blank last
  | upward up content ordered =>
      cases first with
      | blank last => exact absurd last (by simp [content.1])
      | upward _ before less => exact .upward up ⟨before.1, content.2⟩ (ascends_trans less ordered)
      | downward down => cases up.symm.trans down
  | downward down content ordered =>
      cases first with
      | blank last => exact absurd last (by simp [content.1])
      | upward up => cases up.symm.trans down
      | downward _ before less =>
          exact .downward down ⟨before.1, content.2⟩ (ascends_trans ordered less)

theorem in_order_of_content (content : left.isBlank = false ∧ right.isBlank = false) :
    InOrder ascending left right ↔ if ascending then Ascends left right else Ascends right left := by
  constructor
  · intro ordered
    cases ordered with
    | blank last => exact absurd last (by simp [content.2])
    | upward up _ ordered => rwa [if_pos up]
    | downward down _ ordered => rwa [if_neg (by simp [down])]
  · intro ordered
    split at ordered
    · rename_i up
      exact .upward up content ordered
    · rename_i down
      exact .downward (by simpa using down) content ordered

theorem in_order_total (leftReal : left ≠ .number .nan) (rightReal : right ≠ .number .nan) :
    InOrder ascending left right ∨ InOrder ascending right left := by
  cases rightBlank : right.isBlank with
  | true => exact Or.inl (.blank rightBlank)
  | false =>
      cases leftBlank : left.isBlank with
      | true => exact Or.inr (.blank leftBlank)
      | false =>
          rw [in_order_of_content ⟨leftBlank, rightBlank⟩, in_order_of_content ⟨rightBlank, leftBlank⟩]
          split
          · exact ascends_total leftReal rightReal
          · exact ascends_total rightReal leftReal

theorem key_order_is_le_iff (leftReal : left ≠ .number .nan) (rightReal : right ≠ .number .nan) :
    (keyOrder ascending left right).isLE = true ↔ InOrder ascending left right := by
  rw [keyOrder]
  cases rightBlank : right.isBlank with
  | true =>
      have last : InOrder ascending left right := .blank rightBlank
      cases left.isBlank <;> simp [last]
  | false =>
      cases leftBlank : left.isBlank with
      | true =>
          have first : ¬InOrder ascending left right := by
            intro ordered
            cases ordered with
            | blank last => simp [rightBlank] at last
            | upward _ content | downward _ content => simp [leftBlank] at content
          simp [first]
      | false =>
          rw [in_order_of_content ⟨leftBlank, rightBlank⟩]
          cases ascending with
          | true => exact sort_order_is_le_iff leftReal rightReal
          | false =>
              show (left.sortOrder right).swap.isLE = true ↔ _
              rw [sort_order_swap]
              exact sort_order_is_le_iff rightReal leftReal

theorem is_blank_iff {cell : Cell} : cell.isBlank = true ↔ cell.asString? = some "" := by
  cases cell <;> simp [isBlank, asString?]

theorem blank_of_equal (blank : left.isBlank = true) (equal : Compared left right .eq) :
    right.isBlank = true := by
  cases equal with
  | texts leftText rightText values =>
      obtain rfl := Option.some.inj ((is_blank_iff.1 blank).symm.trans leftText)
      rw [is_blank_iff, rightText, Std.compare_eq_iff_eq.1 values]
  | _ => cases blank

theorem in_order_of_equal {key : Cell} (leftEqual : left.equals key = true)
    (rightEqual : right.equals key = true) : InOrder ascending left right := by
  have above := equals_iff.1 leftEqual
  have below := (equals_iff.1 rightEqual).swap
  cases rightBlank : right.isBlank with
  | true => exact .blank rightBlank
  | false =>
      have leftFilled : left.isBlank = false := by
        refine Bool.eq_false_iff.2 fun leftBlank => ?_
        rw [blank_of_equal (blank_of_equal leftBlank above) below] at rightBlank
        cases rightBlank
      obtain ⟨order, notAbove, compared⟩ := above.trans below rfl rfl
      obtain ⟨other, notBelow, reversed⟩ := below.swap.trans above.swap rfl rfl
      rw [in_order_of_content ⟨leftFilled, rightBlank⟩]
      split
      · exact .values compared notAbove
      · exact .values reversed notBelow

end Cell

end GridStore
