import GridStore.Json.Value
import GridStore.Schema.Basic

/-!
Schemas written as JSON.

A record is written as an object, or as an array of its fields in order of which the last ones may
be missing. Unknown members of an object are skipped whatever they hold, but a known one must not
come twice. Transforms cannot be written.
-/

set_option autoImplicit false

namespace GridStore

namespace Document

def named? (members : List (Option String × Document)) : Option (List (String × Document)) :=
  members.mapM fun (name, member) => name.map (·, member)

def known? (names : List String) (members : List (Option String × Document)) :
    Option (List (String × Document)) := do
  let known := (← named? members).filter fun member => names.contains member.1
  if (known.map Prod.fst).Nodup then some known else none

def record? (names : List String) (levels : Nat) (document : Document) :
    Option (List (String × Document)) :=
  if levels = 0 then none
  else match document with
    | .object members => known? names members
    | .array items => if names.length < items.length then none else some (names.zip items)
    | _ => none

def field? {α : Type} (fields : List (String × Document)) (name : String) (absent : α)
    (read : Document → Option α) : Option α :=
  match fields.find? fun field => field.1 == name with
  | some (_, document) => read document
  | none => some absent

def optional? {α : Type} (read : Document → Option α) : Document → Option (Option α)
  | .null => some none
  | document => (read document).map some

def text? : Document → Option String
  | .string content => content
  | _ => none

def boolean? : Document → Option Bool
  | .boolean value => some value
  | _ => none

/-- An integer without a sign, a point or an exponent. -/
def position? : Document → Option Nat
  | .number literal =>
      match literal.numeral? with
      | some (.natural value) => some value
      | _ => none
  | _ => none

def selector? (document : Document) : Option Selector :=
  (document.position?.map .position).or (document.text?.map .name)

def columnSelector? (document : Document) : Option ColumnSelector :=
  (document.position?.map .position).or (document.text?.map .header)

/-- A column. Its full form has to be an object with a value, down to its unknown members. -/
def columnOptions? (levels : Nat) (document : Document) : Option ColumnOptions :=
  match document with
  | .object members => do
      let _ ← document.value? levels
      let fields ← known? ["selector", "primary"] members
      let selector ← field? fields "selector" none (optional? columnSelector?)
      let isPrimary ← field? fields "primary" false boolean?
      some (.full selector isPrimary {})
  | _ => (document.position?.map .position).or (document.text?.map .header)

def columns? (levels : Nat) : Document → Option (List (String × ColumnOptions))
  | .object members =>
      if levels = 0 then none
      else do
        (← named? members).mapM fun (field, column) =>
          (column.columnOptions? (levels - 1)).map (field, ·)
  | _ => none

def address? (document : Document) : Option Address := document.text?.map .ofText

def rangeOptions? (levels : Nat) (document : Document) : Option RangeOptions := do
  let fields ← document.record? ["headers", "data"] levels
  let headers ← field? fields "headers" none (optional? address?)
  let data ← field? fields "data" none (optional? address?)
  some { headers, data }

def schemaOptions? (levels : Nat) (document : Document) : Option SchemaOptions := do
  let fields ← document.record? ["selector", "ranges", "columns"] levels
  let selector ← field? fields "selector" none (optional? selector?)
  let ranges ← field? fields "ranges" {} (rangeOptions? (levels - 1))
  let columns ← field? fields "columns" [] (columns? (levels - 1))
  some { selector, ranges, columns }

def schemaList? (levels : Nat) : Document → Option (List SchemaOptions)
  | .array items => if levels = 0 then none else items.mapM (schemaOptions? (levels - 1))
  | _ => none

def sourceOptions? (levels : Nat) (document : Document) : Option SourceOptions := do
  let fields ← document.record? ["id", "entities"] levels
  let id ← field? fields "id" none (optional? text?)
  let entities ← field? fields "entities" [] (schemaList? (levels - 1))
  some { id, entities }

def parse {α : Type} (read : Nat → Document → Option α) (text : String) : Except SchemaError α :=
  match (ofText? text).bind (read Json.nestingLimit) with
  | some value => .ok value
  | none => .error .malformed

end Document

def ColumnOptions.ofJson (text : String) : Except SchemaError ColumnOptions :=
  Document.parse Document.columnOptions? text

def SchemaOptions.ofJson (text : String) : Except SchemaError SchemaOptions :=
  Document.parse Document.schemaOptions? text

def SourceOptions.ofJson (text : String) : Except SchemaError SourceOptions :=
  Document.parse Document.sourceOptions? text

end GridStore
