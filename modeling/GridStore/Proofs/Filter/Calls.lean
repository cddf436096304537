import GridStore.Proofs.Filter.Meaning

/-!
Filters built call by call. Conditions on fields add up, but a filter has room for one conjunction
and one alternative only, so a call that asks for a group of filters takes the place of earlier
calls of its kind.

Main statement: a filter accepts what all calls ask for that nothing has taken the place of. The
order of the calls does not matter, and one more call never makes a filter accept more, as long as
no call takes the place of another.
-/

set_option autoImplicit false

namespace GridStore

inductive FilterCall where
  | equals (field : String) (cell : Cell)
  | test (field : String) (operator : Operator) (operand : Operand)
  | allOf (filters : List Filter)
  | anyOf (filters : List Filter)

inductive FilterPart where
  | conditions
  | conjunction
  | alternative
deriving DecidableEq

def Filter.passes (entity : Entity) (filter : Filter) : FilterPart → Bool
  | .conditions => filter.conditions.all (isMet entity)
  | .conjunction => conjunctionAccepts entity filter.conjunction
  | .alternative => alternativeAccepts entity filter.alternative

namespace FilterCall

def addTo (filter : Filter) : FilterCall → Filter
  | .equals field cell => filter.whereEquals field cell
  | .test field operator operand => filter.whereOperator field operator operand
  | .allOf filters => filter.withConjunction filters
  | .anyOf filters => filter.withAlternative filters

def Asks (entity : Entity) : FilterCall → Prop
  | .equals field cell => fieldEquals (entity.get? field) cell = true
  | .test field operator operand => operator.test (entity.get? field) operand = true
  | .allOf filters => ∀ filter ∈ filters, filter.accepts entity = true
  | .anyOf filters => ∃ filter ∈ filters, filter.accepts entity = true

def part : FilterCall → FilterPart
  | .equals _ _ | .test _ _ _ => .conditions
  | .allOf _ => .conjunction
  | .anyOf _ => .alternative

/-- A call takes the place of an earlier one when both ask for a group of the same kind. -/
def replaces (later earlier : FilterCall) : Bool :=
  later.part = earlier.part && later.part ≠ .conditions

def followedBy (counting : List FilterCall) (call : FilterCall) : List FilterCall :=
  counting.filter (fun earlier => !call.replaces earlier) ++ [call]

/-- The calls that no later one has taken the place of. -/
def standing (calls : List FilterCall) : List FilterCall := calls.foldl followedBy []

def Unrepeated (calls : List FilterCall) : Prop :=
  calls.Pairwise fun earlier later => later.replaces earlier = false

end FilterCall

namespace Filter

open FilterCall

def ofCalls (calls : List FilterCall) : Filter := calls.foldl addTo empty

variable {entity : Entity} {filter : Filter} {calls : List FilterCall}

theorem accepts_iff_passes :
    filter.accepts entity = true ↔ ∀ part, filter.passes entity part = true := by
  obtain ⟨conditions, conjunction, alternative⟩ := filter
  simp only [accepts, Bool.and_eq_true]
  constructor
  · rintro ⟨⟨direct, every⟩, one⟩ part
    cases part with
    | conditions => exact direct
    | conjunction => exact every
    | alternative => exact one
  · intro passes
    exact ⟨⟨passes .conditions, passes .conjunction⟩, passes .alternative⟩

theorem add_test_iff (field : String) (test : Operator × Operand)
    (conditions : List (String × Condition)) :
    (addTest field test conditions).all (isMet entity) = true ↔
      conditions.all (isMet entity) = true ∧ test.1.test (entity.get? field) test.2 = true := by
  induction conditions with
  | nil => simp [addTest, isMet, Condition.holds]
  | cons condition rest induction =>
      obtain ⟨other, condition⟩ := condition
      have passed : ((other, condition) :: addTest field test rest).all (isMet entity) = true ↔
          ((other, condition) :: rest).all (isMet entity) = true ∧
            test.1.test (entity.get? field) test.2 = true := by
        simp only [List.all_cons, Bool.and_eq_true, induction, and_assoc]
      cases condition with
      | equalTo cell => exact passed
      | null => exact passed
      | operators tests =>
          rw [addTest]
          by_cases same : other = field
          · subst same
            simp only [if_true, List.all_cons, Bool.and_eq_true, isMet, Condition.holds,
              List.all_append, List.all_nil, and_true]
            exact and_right_comm
          · rw [if_neg same]
            exact passed

/-- A call adds to its own part of the filter, or takes the place of what was there, and leaves the
other parts alone. -/
theorem passes_add_to (call : FilterCall) (part : FilterPart) :
    (call.addTo filter).passes entity part = true ↔
      (call.part = part → call.Asks entity) ∧
        (call.part ≠ part ∨ part = .conditions → filter.passes entity part = true) := by
  obtain ⟨conditions, conjunction, alternative⟩ := filter
  cases call with
  | equals field cell =>
      cases part <;>
        simp [addTo, whereEquals, passes, FilterCall.part, Asks, Filter.conditions,
          Filter.conjunction, Filter.alternative, isMet, Condition.holds, and_comm]
  | test field operator operand =>
      cases part <;>
        simp only [addTo, whereOperator, passes, FilterCall.part, Asks, Filter.conditions,
          Filter.conjunction, Filter.alternative, add_test_iff] <;>
        simp [and_comm]
  | allOf filters =>
      cases part <;>
        simp [addTo, withConjunction, passes, FilterCall.part, Asks, Filter.conditions,
          Filter.conjunction, Filter.alternative, conjunctionAccepts, all_accept_iff]
  | anyOf filters =>
      cases part <;>
        simp [addTo, withAlternative, passes, FilterCall.part, Asks, Filter.conditions,
          Filter.conjunction, Filter.alternative, alternativeAccepts, any_accepts_iff]

/-- Each part of a filter asks what the calls of its kind ask. -/
def Represents (entity : Entity) (filter : Filter) (calls : List FilterCall) : Prop :=
  ∀ part, filter.passes entity part = true ↔ ∀ call ∈ calls, call.part = part → call.Asks entity

theorem represents_empty : Represents entity empty [] := by
  intro part
  cases part <;> simp [passes, empty, conditions, conjunction, alternative, conjunctionAccepts,
    alternativeAccepts]

theorem mem_followed_by {call other : FilterCall} :
    other ∈ followedBy calls call ↔ other ∈ calls ∧ call.replaces other = false ∨ other = call := by
  simp [followedBy]

theorem represents_add_to (represents : Represents entity filter calls) (call : FilterCall) :
    Represents entity (call.addTo filter) (followedBy calls call) := by
  intro part
  rw [passes_add_to, represents part]
  have kept : ∀ other : FilterCall, other.part = part →
      (call.replaces other = false ↔ call.part ≠ part ∨ part = .conditions) := by
    intro other belongs
    by_cases same : call.part = part
    · by_cases direct : part = .conditions <;> simp [replaces, belongs, same, direct]
    · simp [replaces, belongs, same]
  constructor
  · rintro ⟨new, old⟩ other member belongs
    rcases mem_followed_by.1 member with ⟨listed, unreplaced⟩ | rfl
    · exact old ((kept other belongs).1 unreplaced) other listed belongs
    · exact new belongs
  · intro every
    constructor
    · exact every call (mem_followed_by.2 (Or.inr rfl))
    · intro spared other listed belongs
      have unreplaced := (kept other belongs).2 spared
      exact every other (mem_followed_by.2 (Or.inl ⟨listed, unreplaced⟩)) belongs

theorem represents_after_all (represents : Represents entity filter calls)
    (later : List FilterCall) :
    Represents entity (later.foldl addTo filter) (later.foldl followedBy calls) := by
  induction later generalizing filter calls with
  | nil => exact represents
  | cons call rest induction => exact induction (represents_add_to represents call)

theorem accepts_iff_of_represents (represents : Represents entity filter calls) :
    filter.accepts entity = true ↔ ∀ call ∈ calls, call.Asks entity := by
  rw [accepts_iff_passes]
  constructor
  · intro passes call member
    exact (represents call.part).1 (passes call.part) call member rfl
  · intro every part
    exact (represents part).2 fun call member _ => every call member

theorem accepts_of_calls_iff (calls : List FilterCall) (entity : Entity) :
    (ofCalls calls).accepts entity = true ↔ ∀ call ∈ standing calls, call.Asks entity :=
  accepts_iff_of_represents (represents_after_all represents_empty calls)

theorem mem_of_standing {call : FilterCall} (member : call ∈ standing calls) : call ∈ calls := by
  have among : ∀ later counting : List FilterCall, call ∈ later.foldl followedBy counting →
      call ∈ counting ∨ call ∈ later := by
    intro later
    induction later with
    | nil => exact fun counting listed => Or.inl listed
    | cons first rest induction =>
        intro counting listed
        rcases induction _ listed with before | after
        · rcases mem_followed_by.1 before with ⟨old, -⟩ | rfl
          · exact Or.inl old
          · exact Or.inr List.mem_cons_self
        · exact Or.inr (List.mem_cons_of_mem _ after)
  simpa using among calls [] member

theorem standing_of_unrepeated (unrepeated : Unrepeated calls) : standing calls = calls := by
  have grows : ∀ later counting : List FilterCall, Unrepeated (counting ++ later) →
      later.foldl followedBy counting = counting ++ later := by
    intro later
    induction later with
    | nil => simp
    | cons first rest induction =>
        intro counting apart
        have unreplaced : ∀ earlier ∈ counting, (!first.replaces earlier) = true := by
          intro earlier member
          have clear := (List.pairwise_append.1 apart).2.2 earlier member first List.mem_cons_self
          simp [clear]
        have joined : followedBy counting first = counting ++ [first] := by
          rw [followedBy, List.filter_eq_self.2 unreplaced]
        rw [List.foldl_cons, joined, induction (counting ++ [first]) (by simpa using apart)]
        simp
  exact grows calls [] unrepeated

theorem unrepeated_of_perm {others : List FilterCall} (unrepeated : Unrepeated calls)
    (order : calls.Perm others) : Unrepeated others := by
  refine List.Pairwise.perm unrepeated order ?_
  intro earlier later apart
  rw [← apart]
  by_cases same : earlier.part = later.part
  · simp [replaces, same]
  · simp [replaces, same, Ne.symm same]

theorem standing_append (calls : List FilterCall) (call : FilterCall) :
    standing (calls ++ [call]) = followedBy (standing calls) call := by
  rw [standing, List.foldl_append]
  rfl

/-- A filter accepts what all calls ask for that no later one takes the place of. So it accepts what
every single call asks for exactly if the calls that still stand ask for that already, in particular
if no call takes the place of another. Then their order does not matter either, and one more
call that takes no other's place never makes the filter accept more. -/
theorem accepts_standing_calls (calls : List FilterCall) :
    (∀ entity, (ofCalls calls).accepts entity = true ↔
        ∀ call ∈ standing calls, call.Asks entity) ∧
      ((∀ entity, (ofCalls calls).accepts entity = true ↔ ∀ call ∈ calls, call.Asks entity) ↔
        ∀ entity, (∀ call ∈ standing calls, call.Asks entity) →
          ∀ call ∈ calls, call.Asks entity) ∧
      (Unrepeated calls →
        (∀ entity, (ofCalls calls).accepts entity = true ↔ ∀ call ∈ calls, call.Asks entity) ∧
          ∀ others, calls.Perm others → ∀ entity,
            (ofCalls others).accepts entity = (ofCalls calls).accepts entity) ∧
      ∀ call, (∀ earlier ∈ calls, call.replaces earlier = false) → ∀ entity,
        (ofCalls (calls ++ [call])).accepts entity = true →
          (ofCalls calls).accepts entity = true := by
  have every : ∀ others : List FilterCall, Unrepeated others → ∀ entity,
      ((ofCalls others).accepts entity = true ↔ ∀ call ∈ others, call.Asks entity) := by
    intro others unrepeated entity
    rw [accepts_of_calls_iff, standing_of_unrepeated unrepeated]
  refine ⟨accepts_of_calls_iff calls, ?_, ?_, ?_⟩
  · simp only [accepts_of_calls_iff]
    constructor
    · exact fun same entity => (same entity).1
    · intro follows entity
      exact ⟨follows entity, fun asked call member => asked call (mem_of_standing member)⟩
  · intro unrepeated
    refine ⟨every calls unrepeated, fun others order entity => ?_⟩
    have shuffled := every others (unrepeated_of_perm unrepeated order) entity
    simp only [← order.mem_iff, ← every calls unrepeated entity] at shuffled
    exact Bool.eq_iff_iff.2 shuffled
  · intro call apart entity accepted
    rw [accepts_of_calls_iff, standing_append] at accepted
    rw [accepts_of_calls_iff]
    intro earlier member
    have unreplaced := apart earlier (mem_of_standing member)
    exact accepted earlier (mem_followed_by.2 (Or.inl ⟨member, unreplaced⟩))

def workingAnn : List FilterCall :=
  [.equals "name" (.string "Ann"),
    .allOf [empty.whereOperator "age" .atLeast (.value (.ofNat 18))],
    .test "age" .less (.value (.ofNat 65))]

theorem working_ann_in_any_order :
    Unrepeated workingAnn ∧
      (∀ entity, (ofCalls workingAnn).accepts entity = true ↔
        ∀ call ∈ workingAnn, call.Asks entity) ∧
      (∀ entity, (ofCalls workingAnn.reverse).accepts entity =
        (ofCalls workingAnn).accepts entity) ∧
      ∀ entity, (ofCalls (workingAnn ++ [.anyOf [empty]])).accepts entity = true →
        (ofCalls workingAnn).accepts entity = true := by
  have unrepeated : Unrepeated workingAnn := by
    unfold Unrepeated
    decide
  have apart : ∀ earlier ∈ workingAnn, (FilterCall.anyOf [empty]).replaces earlier = false := by
    decide
  obtain ⟨-, -, alone, narrows⟩ := accepts_standing_calls workingAnn
  obtain ⟨every, shuffled⟩ := alone unrepeated
  exact ⟨unrepeated, every, shuffled _ workingAnn.reverse_perm.symm, narrows _ apart⟩

/-- The second conjunction takes the place of the first: Bob is accepted although the first call
asks for Ann, the order of the calls matters, and the second call makes the filter accept more. -/
theorem later_conjunction_replaces :
    ∃ first second entity, ¬FilterCall.Asks entity first ∧
      (ofCalls [first, second]).accepts entity = true ∧
      (ofCalls [second, first]).accepts entity = false ∧
      (ofCalls [first]).accepts entity = false := by
  refine ⟨.allOf [empty.whereEquals "name" (.string "Ann")],
    .allOf [empty.whereEquals "role" (.string "dev")],
    .ofList [("name", .string "Bob"), ("role", .string "dev")], ?_, rfl, rfl, rfl⟩
  intro asked
  exact absurd (asked _ List.mem_cons_self) (by decide)

end Filter

end GridStore
