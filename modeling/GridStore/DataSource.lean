import GridStore.Repository
import GridStore.Workbook

/-!
Data sources: a workbook with the schemas of its entities, and the repositories opened so far.

A repository is opened on first use and stays the same from then on: it keeps its columns and its
region, whatever happens to the sheet. Several repositories may share a sheet; each one has its own
region and its own cache of metrics.
-/

set_option autoImplicit false

namespace GridStore

structure EntityRanges where
  headers : Option Span
  data : Span
deriving DecidableEq, Repr

namespace EntityRanges

/-- Where data lies when nothing is said about it: below the headers across their width, or
everywhere. -/
def defaultData : Option Span → Address
  | some headers => Region.addressToBottom (Size.next headers.row) headers.column headers.columns
  | none => { Region.addressToBottom 1 1 1 with columns := .text "mc" }

def resolve (options : RangeOptions) : Action Sheet EntityRanges := do
  let headers ← match options.headers with
    | some address => some <$> Sheet.range address
    | none => pure none
  let data ← Sheet.range (options.data.getD (defaultData headers))
  return { headers, data }

end EntityRanges

def headerNames (headers : Option Span) : Action Sheet (List String) := do
  match headers with
  | none => return []
  | some span =>
      match ← Sheet.values span with
      | [] => return []
      | row :: _ => return row.map Cell.display

structure Binding where
  selector : Selector
  repository : Repository
  sheet : Nat
  cache : MetricCache
  span : Span

def Schema.bind (schema : Schema) : Action Sheet (ColumnMap × Span) := do
  let ranges ← EntityRanges.resolve schema.ranges
  let headers ← headerNames ranges.headers
  let map ← Action.ofExcept id (ColumnMap.build schema.columns headers)
  return (map, ranges.data)

structure DataSource where
  workbook : Workbook
  schemas : List Schema
  bindings : List Binding

namespace DataSource

def addSchema (schemas : List Schema) (options : SchemaOptions) :
    Except SchemaError (List Schema) := do
  let schema ← options.validate
  if schemas.any fun other => other.selector = schema.selector then
    throw (.duplicate schema.selector)
  return schemas ++ [schema]

def ofOptions (workbook : Workbook) (options : SourceOptions) : Except Error DataSource := do
  let schemas ← match options.entities.foldlM addSchema [] with
    | .ok schemas => pure schemas
    | .error cause => throw (.schema cause)
  workbook.checkId options.id
  return { workbook, schemas, bindings := [] }

def open? (source : DataSource) (schema : Schema) : Except Error Binding := do
  let (sheet, grid) ← source.workbook.select schema.selector
  match schema.bind { grid } with
  | .ok (map, span) state =>
      return { selector := schema.selector, repository := ⟨map, schema.mapper map⟩, sheet
               cache := state.cache, span }
  | .error error _ => throw error

/-- The place of the repository with a selector among those opened so far; opens it if it is not
among them. Failures to open carry the selector with them and change nothing. -/
def connect (selector : Selector) : Action DataSource Nat := do
  let source ← get
  match source.bindings.findIdx? fun binding => binding.selector = selector with
  | some place => return place
  | none =>
      match source.schemas.find? fun schema => schema.selector = selector with
      | none => throw (.entityNotFound selector)
      | some schema =>
          match source.open? schema with
          | .error error => throw (error.within ("Entity " ++ selector.display))
          | .ok binding =>
              set { source with bindings := source.bindings ++ [binding] }
              return source.bindings.length

def region? (source : DataSource) (binding : Binding) : Option Region :=
  source.workbook.sheets[binding.sheet]?.map fun grid =>
    { sheet := { grid, cache := binding.cache }, span := binding.span }

def putRegion (source : DataSource) (place : Nat) (binding : Binding) (region : Region) :
    DataSource :=
  { source with
    workbook := source.workbook.replace binding.sheet region.sheet.grid
    bindings := source.bindings.set place
      { binding with cache := region.sheet.cache, span := region.span } }

def run {α : Type} (selector : Selector) (action : Repository → Action Region α) :
    Action DataSource α := do
  let place ← connect selector
  let source ← get
  match source.bindings[place]? with
  | none => throw (.entityNotFound selector)
  | some binding =>
      match source.region? binding with
      | none => throw (.sheetNotFound selector)
      | some region =>
          match action binding.repository region with
          | .ok value region =>
              set (source.putRegion place binding region)
              return value
          | .error error region =>
              set (source.putRegion place binding region)
              throw error

/-- Changes a grid of the workbook without any repository taking part. -/
def changeGrid (position : Nat) (update : Grid → Except GridError Grid) :
    Action DataSource Unit := do
  let source ← get
  match source.workbook.sheets[position]? with
  | none => throw (.sheetNotFound (.position position))
  | some grid =>
      let grid ← Action.ofExcept .grid (update grid)
      set { source with workbook := source.workbook.replace position grid }

end DataSource

end GridStore
