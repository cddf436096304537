import GridStore.Json.Value

/-!
Names in JSON objects. Of several members with one name a document keeps the last, so no object of
its value has two members of one name.
-/

set_option autoImplicit false

namespace GridStore

namespace Fields

variable {α : Type}

theorem mem_of_list {fields : List (String × α)} {field : String × α}
    (member : field ∈ ofList fields) : field ∈ fields := by
  have collects : ∀ (pending collected : List (String × α)),
      field ∈ pending.foldl (fun collected field => insert field.1 field.2 collected) collected →
        field ∈ collected ∨ field ∈ pending := by
    intro pending
    induction pending with
    | nil => exact fun _ held => Or.inl held
    | cons head rest induction =>
        intro collected held
        rcases induction _ held with inserted | later
        · rcases mem_insert inserted with rfl | old
          · exact Or.inr List.mem_cons_self
          · exact Or.inl old
        · exact Or.inr (List.mem_cons_of_mem _ later)
  rcases collects fields [] member with none | listed
  · cases none
  · exact listed

theorem names_of_sorted {fields : List (String × α)} (sorted : Sorted fields) :
    (fields.map Prod.fst).Nodup := by
  refine List.pairwise_map.2 (sorted.imp ?_)
  intro left right before same
  rw [same] at before
  exact String.lt_irrefl _ before

end Fields

namespace Json

inductive NamesDistinct : Json → Prop where
  | null : NamesDistinct .null
  | boolean (value : Bool) : NamesDistinct (.boolean value)
  | number (value : Numeral) : NamesDistinct (.number value)
  | string (value : String) : NamesDistinct (.string value)
  | array {items : List Json} (inside : ∀ item ∈ items, NamesDistinct item) :
      NamesDistinct (.array items)
  | object {members : List (String × Json)} (distinct : (members.map Prod.fst).Nodup)
      (inside : ∀ member ∈ members, NamesDistinct member.2) : NamesDistinct (.object members)

end Json

namespace Document

open Json

mutual

theorem distinct_of_value {levels : Nat} {json : Json} :
    ∀ document : Document, document.value? levels = some json → json.NamesDistinct
  | .null, read => Option.some.inj read ▸ .null
  | .boolean value, read => Option.some.inj read ▸ .boolean value
  | .number literal, read => by
      obtain ⟨numeral, -, rfl⟩ := Option.map_eq_some_iff.1 read
      exact .number numeral
  | .string content, read => by
      obtain ⟨text, -, rfl⟩ := Option.map_eq_some_iff.1 read
      exact .string text
  | .array items, read => by
      rw [value?] at read
      split at read
      · cases read
      · obtain ⟨values, inside, rfl⟩ := Option.map_eq_some_iff.1 read
        exact .array (distinct_of_items items inside)
  | .object members, read => by
      rw [value?] at read
      split at read
      · cases read
      · obtain ⟨fields, inside, rfl⟩ := Option.map_eq_some_iff.1 read
        refine .object (Fields.names_of_sorted (Fields.sorted_ofList fields)) fun member kept => ?_
        exact distinct_of_members members inside member (Fields.mem_of_list kept)

theorem distinct_of_items {levels : Nat} {values : List Json} :
    ∀ items : List Document, itemValues? levels items = some values →
      ∀ value ∈ values, value.NamesDistinct
  | [], read => by
      obtain rfl : [] = values := Option.some.inj read
      exact List.forall_mem_nil _
  | item :: rest, read => by
      obtain ⟨first, here, read⟩ := Option.bind_eq_some_iff.1 read
      obtain ⟨others, there, read⟩ := Option.bind_eq_some_iff.1 read
      obtain rfl : first :: others = values := Option.some.inj read
      exact List.forall_mem_cons.2 ⟨distinct_of_value item here, distinct_of_items rest there⟩

theorem distinct_of_members {levels : Nat} {values : List (String × Json)} :
    ∀ members : List (Option String × Document), memberValues? levels members = some values →
      ∀ value ∈ values, value.2.NamesDistinct
  | [], read => by
      obtain rfl : [] = values := Option.some.inj read
      exact List.forall_mem_nil _
  | (name, member) :: rest, read => by
      obtain ⟨known, -, read⟩ := Option.bind_eq_some_iff.1 read
      obtain ⟨first, here, read⟩ := Option.bind_eq_some_iff.1 read
      obtain ⟨others, there, read⟩ := Option.bind_eq_some_iff.1 read
      obtain rfl : (known, first) :: others = values := Option.some.inj read
      exact List.forall_mem_cons.2 ⟨distinct_of_value member here, distinct_of_members rest there⟩

end

end Document

theorem Json.distinct_of_text {text : String} {json : Json} (read : Json.ofText? text = some json) :
    json.NamesDistinct := by
  obtain ⟨document, -, valued⟩ := Option.bind_eq_some_iff.1 read
  exact Document.distinct_of_value document valued

end GridStore
