import GridStore.Proofs.Filter.Operator
import GridStore.Proofs.Json.Distinct

/-!
The meaning of filters written as JSON, told from the JSON value alone: which values are filters,
and which entities satisfy one. Reading a filter and applying it agrees with that.
-/

set_option autoImplicit false

namespace GridStore

namespace Json

/-- An object in which every array under `$and` or `$or` holds such objects again. -/
inductive IsFilter : Json → Prop where
  | object {members : List (String × Json)}
      (groups : ∀ key items, (key, .array items) ∈ members → key = "$and" ∨ key = "$or" →
        ∀ item ∈ items, IsFilter item) :
      IsFilter (.object members)

def IsScalar : Json → Prop
  | .boolean _ | .number _ | .string _ => True
  | _ => False

mutual

/-- An entity satisfies an object when it satisfies all its members. -/
inductive Holds (entity : Entity) : Json → Prop where
  | object {members : List (String × Json)}
      (every : ∀ member ∈ members, MemberHolds entity member.1 member.2) :
      Holds entity (.object members)

/-- What a member asks of an entity. Nothing satisfies `null`. -/
inductive MemberHolds (entity : Entity) : String → Json → Prop where
  | conjunction {key : String} {items : List Json} (named : key = "$and")
      (every : ∀ item ∈ items, Holds entity item) : MemberHolds entity key (.array items)
  | alternative {key : String} {items : List Json} {item : Json} (named : key = "$or")
      (listed : item ∈ items) (one : Holds entity item) : MemberHolds entity key (.array items)
  | list {key : String} {items : List Json} (noGroup : key ≠ "$and" ∧ key ≠ "$or") :
      MemberHolds entity key (.array items)
  | operators {field : String} {members : List (String × Json)}
      (every : ∀ operator operand, (Operator.key operator, operand) ∈ members →
        operator.Asks (entity.get? field) operand) :
      MemberHolds entity field (.object members)
  | scalar {field : String} {value : Json} (single : value.IsScalar)
      (equal : FieldCompares (entity.get? field) [.eq] (.ofJson value)) :
      MemberHolds entity field value

end

theorem size_of_nested {members : List (String × Json)} {key : String} {items : List Json}
    {item : Json} (listed : (key, .array items) ∈ members) (member : item ∈ items) :
    sizeOf item < sizeOf (Json.object members) := by
  have inner := List.sizeOf_lt_of_mem member
  have outer := List.sizeOf_lt_of_mem listed
  simp only [Prod.mk.sizeOf_spec, array.sizeOf_spec] at outer
  simp only [object.sizeOf_spec]
  omega

/-- Filters nest through the arrays of an object only. -/
theorem nested_induction {motive : Json → Prop}
    (step : ∀ json, (∀ members key items item, json = .object members →
      (key, .array items) ∈ members → item ∈ items → motive item) → motive json) (json : Json) :
    motive json := by
  apply step
  intro members key items item same listed member
  exact nested_induction step item
termination_by sizeOf json
decreasing_by
  rw [same]
  exact size_of_nested listed member

end Json

namespace Filter

variable {entity : Entity} {filter result : Filter} {key : String} {value : Json}

theorem all_accept_iff {filters : List Filter} :
    allAccept entity filters = true ↔ ∀ filter ∈ filters, accepts entity filter = true := by
  induction filters with
  | nil => simp [allAccept]
  | cons head rest induction => simp [allAccept, induction]

theorem any_accepts_iff {filters : List Filter} :
    anyAccepts entity filters = true ↔ ∃ filter ∈ filters, accepts entity filter = true := by
  induction filters with
  | nil => simp [anyAccepts]
  | cons head rest induction => simp [anyAccepts, induction]

theorem accepts_add_condition {field : String} {condition : Condition} :
    accepts entity (filter.addCondition field condition) = true ↔
      accepts entity filter = true ∧ condition.holds (entity.get? field) = true := by
  obtain ⟨conditions, conjunction, alternative⟩ := filter
  simp only [addCondition, Filter.conditions, Filter.conjunction, Filter.alternative, accepts,
    List.all_append, List.all_cons, List.all_nil, Bool.and_true, Bool.and_eq_true, isMet]
  constructor
  · rintro ⟨⟨⟨direct, new⟩, every⟩, one⟩
    exact ⟨⟨⟨direct, every⟩, one⟩, new⟩
  · rintro ⟨⟨⟨direct, every⟩, one⟩, new⟩
    exact ⟨⟨⟨direct, new⟩, every⟩, one⟩

theorem accepts_with_conjunction {filters : List Filter} (vacant : filter.conjunction = none) :
    accepts entity (filter.withConjunction filters) = true ↔
      accepts entity filter = true ∧ ∀ filter ∈ filters, accepts entity filter = true := by
  obtain ⟨conditions, conjunction, alternative⟩ := filter
  obtain rfl : conjunction = none := vacant
  simp only [withConjunction, Filter.conditions, Filter.alternative, accepts, conjunctionAccepts,
    Bool.and_true, Bool.and_eq_true, all_accept_iff]
  constructor
  · rintro ⟨⟨direct, every⟩, one⟩
    exact ⟨⟨direct, one⟩, every⟩
  · rintro ⟨⟨direct, one⟩, every⟩
    exact ⟨⟨direct, every⟩, one⟩

theorem accepts_with_alternative {filters : List Filter} (vacant : filter.alternative = none) :
    accepts entity (filter.withAlternative filters) = true ↔
      accepts entity filter = true ∧ ∃ filter ∈ filters, accepts entity filter = true := by
  obtain ⟨conditions, conjunction, alternative⟩ := filter
  obtain rfl : alternative = none := vacant
  simp only [withAlternative, Filter.conditions, Filter.conjunction, accepts, alternativeAccepts,
    Bool.and_true, Bool.and_eq_true, any_accepts_iff]

/-- An object of operators asks what its known operators ask. -/
theorem tests_iff {field : Option Cell} {members : List (String × Json)} :
    (Condition.operators (Condition.testsOfMembers members)).holds field = true ↔
      ∀ operator operand, (Operator.key operator, operand) ∈ members →
        operator.Asks field operand := by
  simp only [Condition.holds, Condition.testsOfMembers, List.all_eq_true, List.mem_filterMap]
  constructor
  · intro every operator operand listed
    have known := Operator.of_key_iff.2 (Eq.refl operator.key)
    have passed := every (operator, .ofJson operand) ⟨_, listed, by rw [known]; rfl⟩
    exact (Operator.test_iff operator operand).1 passed
  · rintro every ⟨operator, operand⟩ ⟨⟨key, written⟩, listed, taken⟩
    obtain ⟨known, named, same⟩ := Option.map_eq_some_iff.1 taken
    obtain ⟨rfl, rfl⟩ := Prod.mk.inj same
    obtain rfl : known.key = key := Operator.of_key_iff.1 named
    exact (Operator.test_iff known written).2 (every known written listed)

/-- Apart from groups of filters a member is a condition on the field of its name. -/
theorem condition_iff
    (noGroup : ∀ items, value = .array items → key ≠ "$and" ∧ key ≠ "$or") :
    (Condition.ofJson value).holds (entity.get? key) = true ↔ Json.MemberHolds entity key value := by
  cases value with
  | null =>
      constructor
      · intro holds
        cases holds
      · intro holds
        cases holds with
        | scalar single => exact single.elim
  | array items =>
      have list : Json.MemberHolds entity key (.array items) := .list (noGroup items rfl)
      exact ⟨fun _ => list, fun _ => rfl⟩
  | object members =>
      refine tests_iff.trans ⟨.operators, ?_⟩
      intro holds
      cases holds with
      | operators every => exact every
      | scalar single => exact single.elim
  | _ =>
      refine field_equals_iff.trans ⟨.scalar trivial, ?_⟩
      intro holds
      cases holds with
      | scalar _ equal => exact equal

def addMember (filter : Filter) (key : String) : Json → Except FilterError Filter
  | .array items =>
      if key = "$or" then do return filter.withAlternative (← ofItems items)
      else if key = "$and" then do return filter.withConjunction (← ofItems items)
      else .ok (filter.addCondition key (.ofJson (.array items)))
  | value => .ok (filter.addCondition key (.ofJson value))

theorem of_members_cons (rest : List (String × Json)) :
    ofMembers filter ((key, value) :: rest) =
      addMember filter key value >>= fun taken => ofMembers taken rest := by
  cases value with
  | array items =>
      rw [ofMembers, addMember]
      split
      · cases ofItems items <;> rfl
      · split
        · cases ofItems items <;> rfl
        · rfl
  | _ => rfl

theorem add_member_cases (added : addMember filter key value = .ok result) :
    (∃ items filters, key = "$or" ∧ value = .array items ∧ ofItems items = .ok filters ∧
        result = filter.withAlternative filters) ∨
      (∃ items filters, key = "$and" ∧ value = .array items ∧ ofItems items = .ok filters ∧
        result = filter.withConjunction filters) ∨
      (∀ items, value = .array items → key ≠ "$and" ∧ key ≠ "$or") ∧
        result = filter.addCondition key (.ofJson value) := by
  cases value with
  | array items =>
      rw [addMember] at added
      by_cases one : key = "$or"
      · rw [if_pos one] at added
        cases read : ofItems items with
        | error cause =>
            rw [read] at added
            cases added
        | ok filters =>
            rw [read] at added
            exact Or.inl ⟨items, filters, one, rfl, read, (Except.ok.inj added).symm⟩
      · rw [if_neg one] at added
        by_cases every : key = "$and"
        · rw [if_pos every] at added
          cases read : ofItems items with
          | error cause =>
              rw [read] at added
              cases added
          | ok filters =>
              rw [read] at added
              exact Or.inr (Or.inl ⟨items, filters, every, rfl, read, (Except.ok.inj added).symm⟩)
        · rw [if_neg every] at added
          exact Or.inr (Or.inr ⟨fun _ _ => ⟨every, one⟩, (Except.ok.inj added).symm⟩)
  | _ =>
      refine Or.inr (Or.inr ⟨?_, (Except.ok.inj added).symm⟩)
      intro items same
      cases same

theorem of_items_cons_iff {item : Json} {rest : List Json} {filters : List Filter} :
    ofItems (item :: rest) = .ok filters ↔
      ∃ first others, ofJson item = .ok first ∧ ofItems rest = .ok others ∧
        filters = first :: others := by
  rw [ofItems]
  cases ofJson item with
  | error cause => simp [bind, Except.bind]
  | ok first =>
      cases ofItems rest with
      | error cause => simp [bind, Except.bind]
      | ok others => simp [bind, Except.bind, pure, Except.pure, eq_comm]

def Reads (entity : Entity) (json : Json) : Prop :=
  ∀ filter, ofJson json = .ok filter → (accepts entity filter = true ↔ json.Holds entity)

theorem items_hold_iff {items : List Json} {filters : List Filter}
    (nested : ∀ item ∈ items, Reads entity item) (read : ofItems items = .ok filters) :
    ((∀ filter ∈ filters, accepts entity filter = true) ↔ ∀ item ∈ items, item.Holds entity) ∧
      ((∃ filter ∈ filters, accepts entity filter = true) ↔
        ∃ item ∈ items, item.Holds entity) := by
  induction items generalizing filters with
  | nil =>
      obtain rfl : [] = filters := Except.ok.inj read
      simp
  | cons item rest induction =>
      obtain ⟨first, others, here, there, rfl⟩ := of_items_cons_iff.1 read
      obtain ⟨every, one⟩ := induction
        (fun other member => nested other (List.mem_cons_of_mem _ member)) there
      have head := nested item List.mem_cons_self first here
      constructor
      · rw [List.forall_mem_cons, List.forall_mem_cons, head, every]
      · simp only [List.mem_cons, exists_eq_or_imp, head, one]

theorem conjunction_holds_iff {items : List Json} :
    Json.MemberHolds entity "$and" (.array items) ↔ ∀ item ∈ items, item.Holds entity := by
  constructor
  · intro holds
    cases holds with
    | conjunction _ every => exact every
    | alternative named => exact absurd named (by decide)
    | list noGroup => exact absurd rfl noGroup.1
    | scalar single => exact single.elim
  · exact .conjunction rfl

theorem alternative_holds_iff {items : List Json} :
    Json.MemberHolds entity "$or" (.array items) ↔ ∃ item ∈ items, item.Holds entity := by
  constructor
  · intro holds
    cases holds with
    | conjunction named => exact absurd named (by decide)
    | alternative _ listed one => exact ⟨_, listed, one⟩
    | list noGroup => exact absurd rfl noGroup.2
    | scalar single => exact single.elim
  · rintro ⟨item, listed, one⟩
    exact .alternative rfl listed one

structure Awaits (filter : Filter) (names : List String) : Prop where
  conjunction : "$and" ∈ names → filter.conjunction = none
  alternative : "$or" ∈ names → filter.alternative = none

theorem awaits_after {rest : List String} (added : addMember filter key value = .ok result)
    (new : key ∉ rest) (awaits : filter.Awaits (key :: rest)) : result.Awaits rest := by
  rcases add_member_cases added with ⟨items, filters, rfl, -, -, rfl⟩ |
    ⟨items, filters, rfl, -, -, rfl⟩ | ⟨-, rfl⟩
  · exact ⟨fun later => awaits.conjunction (List.mem_cons_of_mem _ later),
      fun later => absurd later new⟩
  · exact ⟨fun later => absurd later new,
      fun later => awaits.alternative (List.mem_cons_of_mem _ later)⟩
  · exact ⟨fun later => awaits.conjunction (List.mem_cons_of_mem _ later),
      fun later => awaits.alternative (List.mem_cons_of_mem _ later)⟩

/-- One member more asks what that member asks. -/
theorem accepts_after {rest : List String} (added : addMember filter key value = .ok result)
    (awaits : filter.Awaits (key :: rest))
    (nested : ∀ items, value = .array items → ∀ item ∈ items, Reads entity item) :
    accepts entity result = true ↔
      accepts entity filter = true ∧ Json.MemberHolds entity key value := by
  rcases add_member_cases added with ⟨items, filters, rfl, rfl, read, rfl⟩ |
    ⟨items, filters, rfl, rfl, read, rfl⟩ | ⟨noGroup, rfl⟩
  · rw [accepts_with_alternative (awaits.alternative List.mem_cons_self),
      (items_hold_iff (nested items rfl) read).2, alternative_holds_iff]
  · rw [accepts_with_conjunction (awaits.conjunction List.mem_cons_self),
      (items_hold_iff (nested items rfl) read).1, conjunction_holds_iff]
  · rw [accepts_add_condition, condition_iff noGroup]

theorem accepts_after_all {members : List (String × Json)}
    (read : ofMembers filter members = .ok result) (distinct : (members.map Prod.fst).Nodup)
    (awaits : filter.Awaits (members.map Prod.fst))
    (nested : ∀ key items, (key, .array items) ∈ members → ∀ item ∈ items, Reads entity item) :
    accepts entity result = true ↔
      accepts entity filter = true ∧
        ∀ member ∈ members, Json.MemberHolds entity member.1 member.2 := by
  induction members generalizing filter with
  | nil =>
      obtain rfl : filter = result := Except.ok.inj read
      simp
  | cons member rest induction =>
      obtain ⟨key, value⟩ := member
      rw [of_members_cons] at read
      cases added : addMember filter key value with
      | error cause =>
          rw [added] at read
          cases read
      | ok taken =>
          rw [added] at read
          obtain ⟨new, later⟩ := List.nodup_cons.1 distinct
          have stepped := accepts_after added awaits
            fun items same => nested key items (same ▸ List.mem_cons_self)
          have finished := induction read later (awaits_after added new awaits)
            fun key items listed => nested key items (List.mem_cons_of_mem _ listed)
          rw [finished, stepped, List.forall_mem_cons, and_assoc]

theorem items_ok_iff {items : List Json} :
    (∃ filters, ofItems items = .ok filters) ↔
      ∀ item ∈ items, ∃ filter, ofJson item = .ok filter := by
  induction items with
  | nil => simp [ofItems]
  | cons item rest induction =>
      rw [List.forall_mem_cons, ← induction]
      constructor
      · rintro ⟨filters, read⟩
        obtain ⟨first, others, here, there, -⟩ := of_items_cons_iff.1 read
        exact ⟨⟨first, here⟩, others, there⟩
      · rintro ⟨⟨first, here⟩, others, there⟩
        exact ⟨_, of_items_cons_iff.2 ⟨first, others, here, there, rfl⟩⟩

/-- Only groups can be refused, for one of their items. -/
theorem add_member_ok_iff (start : Filter) :
    (∃ result, addMember start key value = .ok result) ↔
      ∀ items, value = .array items → key = "$and" ∨ key = "$or" →
        ∀ item ∈ items, ∃ nested, ofJson item = .ok nested := by
  cases value with
  | array items =>
      constructor
      · rintro ⟨result, added⟩ others same group
        obtain rfl := Json.array.inj same
        rcases add_member_cases added with ⟨inner, filters, -, inside, read, -⟩ |
          ⟨inner, filters, -, inside, read, -⟩ | ⟨noGroup, -⟩
        · obtain rfl := Json.array.inj inside
          exact items_ok_iff.1 ⟨filters, read⟩
        · obtain rfl := Json.array.inj inside
          exact items_ok_iff.1 ⟨filters, read⟩
        · obtain ⟨notAll, notAny⟩ := noGroup _ rfl
          rcases group with every | one
          · exact absurd every notAll
          · exact absurd one notAny
      · intro nested
        rw [addMember]
        by_cases one : key = "$or"
        · obtain ⟨filters, read⟩ := items_ok_iff.2 (nested items rfl (Or.inr one))
          rw [if_pos one, read]
          exact ⟨_, rfl⟩
        · by_cases every : key = "$and"
          · obtain ⟨filters, read⟩ := items_ok_iff.2 (nested items rfl (Or.inl every))
            rw [if_neg one, if_pos every, read]
            exact ⟨_, rfl⟩
          · rw [if_neg one, if_neg every]
            exact ⟨_, rfl⟩
  | _ =>
      constructor
      · intro _ items same
        cases same
      · exact fun _ => ⟨_, rfl⟩

theorem members_ok_iff (start : Filter) {members : List (String × Json)} :
    (∃ result, ofMembers start members = .ok result) ↔
      ∀ key items, (key, .array items) ∈ members → key = "$and" ∨ key = "$or" →
        ∀ item ∈ items, ∃ nested, ofJson item = .ok nested := by
  induction members generalizing start with
  | nil => simp [ofMembers]
  | cons member rest induction =>
      obtain ⟨key, value⟩ := member
      rw [of_members_cons]
      constructor
      · rintro ⟨result, read⟩ other items listed group
        cases added : addMember start key value with
        | error cause =>
            rw [added] at read
            cases read
        | ok taken =>
            rw [added] at read
            rcases List.mem_cons.1 listed with same | later
            · obtain ⟨rfl, rfl⟩ := Prod.mk.inj same
              exact (add_member_ok_iff start).1 ⟨taken, added⟩ items rfl group
            · exact (induction taken).1 ⟨result, read⟩ other items later group
      · intro nested
        obtain ⟨taken, added⟩ := (add_member_ok_iff start).2 fun items same =>
          nested key items (same ▸ List.mem_cons_self)
        obtain ⟨result, read⟩ := (induction taken).2 fun other items later =>
          nested other items (List.mem_cons_of_mem _ later)
        rw [added]
        exact ⟨result, read⟩

theorem of_json_ok_iff (json : Json) : (∃ filter, ofJson json = .ok filter) ↔ json.IsFilter := by
  constructor
  · induction json using Json.nested_induction with
    | step json induction =>
        rintro ⟨filter, read⟩
        cases json with
        | object members =>
            refine .object fun key items listed group item member => ?_
            refine induction members key items item rfl listed member ?_
            exact (members_ok_iff empty).1 ⟨filter, read⟩ key items listed group item member
        | _ => cases read
  · intro isFilter
    induction isFilter with
    | object groups induction => exact (members_ok_iff empty).2 induction

theorem reads_distinct (entity : Entity) (json : Json) (distinct : json.NamesDistinct) :
    Reads entity json := by
  induction json using Json.nested_induction with
  | step json induction =>
      intro filter read
      cases json with
      | object members =>
          cases distinct with
          | object distinct inside =>
              have awaits : Awaits empty (members.map Prod.fst) := ⟨fun _ => rfl, fun _ => rfl⟩
              rw [accepts_after_all read distinct awaits ?_]
              · constructor
                · exact fun holds => .object holds.2
                · intro holds
                  cases holds with
                  | object every => exact ⟨rfl, every⟩
              · intro key items listed item member
                refine induction members key items item rfl listed member ?_
                cases inside _ listed with
                | array items => exact items item member
      | _ => cases read

/-- A JSON value is read as a filter exactly if it is one, and the filter then accepts the entities
that satisfy the value. -/
theorem json_filter_means (json : Json) :
    ((∃ filter, ofJson json = .ok filter) ↔ json.IsFilter) ∧
      (json.NamesDistinct → ∀ filter, ofJson json = .ok filter → ∀ entity,
        accepts entity filter = true ↔ json.Holds entity) :=
  ⟨of_json_ok_iff json, fun distinct filter read entity =>
    reads_distinct entity json distinct filter read⟩

def annOrAdult : Json := .object [("$or", .array [.object [("name", .string "Ann")],
  .object [("age", .object [("$gte", .number (.natural 18))])]])]

theorem ann_or_adult_means :
    annOrAdult.IsFilter ∧ annOrAdult.Holds (.ofList [("name", .string "Ann")]) ∧
      ¬annOrAdult.Holds (.ofList [("name", .string "Bob")]) := by
  have single : ∀ {name : String} {value : Json}, value.NamesDistinct →
      (Json.object [(name, value)]).NamesDistinct := fun distinct =>
    .object (List.pairwise_singleton _ _) (List.forall_mem_singleton.2 distinct)
  have distinct : annOrAdult.NamesDistinct := single (.array (List.forall_mem_cons.2
    ⟨single (.string "Ann"), List.forall_mem_singleton.2 (single (single (.number _)))⟩))
  obtain ⟨isFilter, means⟩ := json_filter_means annOrAdult
  have agrees := means distinct _ rfl
  refine ⟨isFilter.1 ⟨_, rfl⟩, (agrees _).1 rfl, fun holds => ?_⟩
  cases (agrees _).2 holds

/-- In filters read from a text no name is repeated, so they all mean what they say. -/
theorem text_filter_means {text : String} {filter : Filter} (read : ofText text = .ok filter) :
    ∃ json, Json.ofText? text = some json ∧ json.IsFilter ∧
      ∀ entity, accepts entity filter = true ↔ json.Holds entity := by
  rw [ofText] at read
  cases parsed : Json.ofText? text with
  | none =>
      rw [parsed] at read
      cases read
  | some json =>
      rw [parsed] at read
      exact ⟨json, rfl, (of_json_ok_iff json).1 ⟨filter, read⟩,
        fun entity => reads_distinct entity json (Json.distinct_of_text parsed) filter read⟩

end Filter

end GridStore
