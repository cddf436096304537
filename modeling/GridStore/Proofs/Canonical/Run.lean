import GridStore.Proofs.Canonical.Repository
import GridStore.Proofs.Insert
import GridStore.Proofs.Region.Sharing
import GridStore.Proofs.Sort

/-!
Whole runs of a repository, from opening it on, on two grids that are the same up to blanks and
empty texts. As long as the requests are the same in this sense too, nobody can tell the runs apart
but by looking for empty texts.
-/

set_option autoImplicit false

namespace GridStore

open GridStore.Action

section Opening

variable {schema : Schema}

theorem EntityRanges.default_discreet (headers : Option Span) :
    (defaultData headers).IsDiscreet := by
  cases headers with
  | none => exact Address.discreet_of_row fun _ => nofun
  | some span => exact Address.discreet_of_row fun _ => nofun

theorem EntityRanges.resolve_mirrors (plain : schema.IsPlain) :
    Mirrors Sheet.canonical id (resolve schema.ranges) (resolve schema.ranges) := by
  have below : ∀ headers, (schema.ranges.data.getD (defaultData headers)).IsDiscreet := by
    intro headers
    cases given : schema.ranges.data with
    | none => exact default_discreet headers
    | some address => exact plain.data address given
  unfold resolve
  cases given : schema.ranges.headers with
  | none =>
      have nothing : Mirrors Sheet.canonical id (pure none : Action Sheet (Option Span))
          (pure none) := mirrors_pure none
      refine mirrors_bind nothing fun headers => ?_
      exact mirrors_bind (Sheet.range_mirrors (below headers)) fun data => mirrors_pure _
  | some address =>
      simp only [bind_map_left]
      refine mirrors_bind (Sheet.range_mirrors (plain.headers address given)) fun headers => ?_
      exact mirrors_bind (Sheet.range_mirrors (below (some headers))) fun data => mirrors_pure _

theorem header_names_mirror (headers : Option Span) :
    Mirrors Sheet.canonical id (headerNames headers) (headerNames headers) := by
  unfold headerNames
  cases headers with
  | none => exact mirrors_pure _
  | some span =>
      refine mirrors_bind (Sheet.values_mirror span) fun rows => ?_
      cases rows with
      | nil => exact mirrors_pure _
      | cons row rest =>
          have names : (Row.canonical row).map Cell.display = row.map Cell.display := by
            simp only [Row.canonical, List.map_map, Function.comp_def, Cell.display_canonical]
          rw [List.map_cons]
          simp only [names]
          exact mirrors_pure _

theorem Schema.bind_mirrors (plain : schema.IsPlain) :
    Mirrors Sheet.canonical id schema.bind schema.bind := by
  unfold Schema.bind
  refine mirrors_bind (EntityRanges.resolve_mirrors plain) fun ranges => ?_
  refine mirrors_bind (header_names_mirror ranges.headers) fun headers => ?_
  have builds : Mirrors Sheet.canonical id
      (ofExcept id (ColumnMap.build schema.columns headers))
      (ofExcept id (ColumnMap.build schema.columns headers)) :=
    mirrors_of_except (by cases ColumnMap.build schema.columns headers <;> rfl)
  exact mirrors_bind builds fun map => mirrors_pure _

def Schema.opened (schema : Schema) (grid : Grid) : Except Error (Repository × Region) :=
  match schema.bind { grid } with
  | .ok (map, span) sheet => .ok (⟨map, schema.mapper map⟩, ⟨sheet, span⟩)
  | .error error _ => .error error

/-- A data source opens its repositories in this way, on the sheets that their schemas select. -/
theorem DataSource.opened_of_open {source : DataSource} {binding : Binding}
    (bound : source.open? schema = .ok binding) :
    ∃ sheet grid view, source.workbook.select schema.selector = .ok (sheet, grid) ∧
      schema.opened grid = .ok (binding.repository, ⟨view, binding.span⟩) ∧
        view.cache = binding.cache := by
  obtain ⟨sheet, grid, map, span, view, selected, binds, rfl⟩ := open_ok_iff.1 bound
  refine ⟨sheet, grid, view, selected, ?_, rfl⟩
  rw [Schema.opened, binds]

end Opening

namespace Reply

def equals : Reply → Reply → Bool
  | .found left, .found right =>
      left.length == right.length && (left.zip right).all fun (entity, other) => entity.equals other
  | .first (some left), .first (some right) => left.equals right
  | .first none, .first none => true
  | .deleted left, .deleted right => left == right
  | .done, .done => true
  | _, _ => false

/-- No entity in it holds `nan`, which does not equal itself. -/
def IsReal : Reply → Prop
  | .found entities => ∀ entity ∈ entities, entity.IsReal
  | .first entity => ∀ held ∈ entity, held.IsReal
  | _ => True

theorem equals_of_canonical {left right : Reply} (same : left.canonical = right.canonical)
    (real : left.IsReal) : left.equals right = true := by
  cases left with
  | found entities =>
      cases right with
      | found others =>
          obtain ⟨length, equal⟩ := beside_of_map_eq (Reply.found.inj same)
            fun entity member _ alike => Entity.equals_of_canonical alike (real entity member)
          rw [equals, Bool.and_eq_true, beq_iff_eq]
          exact ⟨length, equal⟩
      | _ => cases same
  | first entity =>
      cases right with
      | first other =>
          cases entity with
          | none =>
              cases other with
              | none => rfl
              | some other => cases same
          | some entity =>
              cases other with
              | none => cases same
              | some other =>
                  exact Entity.equals_of_canonical (Option.some.inj (Reply.first.inj same))
                    (real entity rfl)
      | _ => cases same
  | deleted deletion =>
      cases right with
      | deleted other => exact beq_iff_eq.2 (Reply.deleted.inj same)
      | _ => cases same
  | done =>
      cases right with
      | done => rfl
      | _ => cases same

end Reply

section Changes

variable {left right leftAfter rightAfter : Region}

theorem grids_alike (same : left.canonical = right.canonical) :
    left.sheet.grid.canonical = right.sheet.grid.canonical :=
  congrArg (fun region : Region => region.sheet.grid) same

theorem spans_alike (same : left.canonical = right.canonical) : left.span = right.span := by
  have spans : left.canonical.span = right.canonical.span := congrArg Region.span same
  exact spans

theorem measured_alike (same : left.canonical = right.canonical)
    (first : Region.remeasure left = .ok () leftAfter)
    (second : Region.remeasure right = .ok () rightAfter) :
    leftAfter.span = rightAfter.span ∧ leftAfter.sheet.cache = rightAfter.sheet.cache := by
  have ends := same_of_mirrors Region.remeasure_mirrors Region.remeasure_mirrors same
  rw [first, second] at ends
  have alike : leftAfter.canonical = rightAfter.canonical := (EStateM.Result.ok.inj ends).2
  have cache : leftAfter.canonical.sheet.cache = rightAfter.canonical.sheet.cache :=
    congrArg (fun region : Region => region.sheet.cache) alike
  exact ⟨spans_alike alike, cache⟩

/-- The rows of a block in another order, everything else as it was. -/
def Grid.Reordered (before after : Grid) (span : Span) (order : List Nat) : Prop :=
  before.checkBounds span = .ok () ∧
    before.write span (order.map fun index => (before.block span).getD index []) = .ok after

theorem sorted_block {options : SortOptions}
    (sorted : Region.sort options left = .ok () leftAfter) :
    ∃ measured, Region.remeasure left = .ok () measured ∧
      left.sheet.grid.Reordered leftAfter.sheet.grid measured.span
        (Grid.sortedPositions (Region.sortColumn measured.span options.column - measured.span.column)
          (options.ascending.getD false) (left.sheet.grid.block measured.span)) := by
  obtain ⟨⟨⟩, measured, first, -⟩ := bind_ok_iff.1 sorted
  rw [Region.sort_after_measuring first] at sorted
  obtain ⟨⟨⟩, middle, changes, again⟩ := bind_ok_iff.1 sorted
  obtain ⟨sheet, changed, rfl⟩ := Region.on_sheet_ok_iff.1 changes
  obtain ⟨grid, reordered, rfl⟩ := Region.change_ok_iff.1 changed
  rw [Region.grid_of_remeasure first, Grid.sort_ok_iff, Grid.sort_rows_by_position] at reordered
  obtain ⟨readable, -, written⟩ := reordered
  refine ⟨measured, first, readable, ?_⟩
  rw [Region.grid_of_remeasure again]
  exact written

theorem sort_alike {options : SortOptions} (same : left.canonical = right.canonical)
    (sorted : Region.sort options left = .ok () leftAfter)
    (others : Region.sort options right = .ok () rightAfter) :
    ∃ span order, order.Perm (List.range span.rows) ∧
      left.sheet.grid.Reordered leftAfter.sheet.grid span order ∧
      right.sheet.grid.Reordered rightAfter.sheet.grid span order := by
  obtain ⟨measured, first, reordered⟩ := sorted_block sorted
  obtain ⟨counterpart, second, alike⟩ := sorted_block others
  obtain ⟨span, -⟩ := measured_alike same first second
  have blocks : (left.sheet.grid.block measured.span).map Row.canonical =
      (right.sheet.grid.block measured.span).map Row.canonical := by
    rw [← Grid.block_canonical, ← Grid.block_canonical, grids_alike same]
  rw [← span, ← Grid.sorted_positions_canonical, ← blocks, Grid.sorted_positions_canonical] at alike
  refine ⟨measured.span, _, ?_, reordered, alike⟩
  have perm := Grid.sorted_positions_perm (Region.sortColumn measured.span options.column -
    measured.span.column) (options.ascending.getD false) (left.sheet.grid.block measured.span)
  rwa [Grid.length_block reordered.1] at perm

theorem append_alike {rows others : List Row} (same : left.canonical = right.canonical)
    (alike : rows.map Row.canonical = others.map Row.canonical)
    (appended : Region.append rows left = .ok () leftAfter)
    (second : Region.append others right = .ok () rightAfter) :
    ∃ target, left.sheet.grid.write target rows = .ok leftAfter.sheet.grid ∧
      right.sheet.grid.write target others = .ok rightAfter.sheet.grid := by
  cases rows with
  | nil => cases appended
  | cons head rest =>
      cases others with
      | nil => cases second
      | cons other more =>
          obtain ⟨measured, target, cache, grid, first, -, -, resolved, written, again⟩ :=
            Region.append_ok_iff.1 appended
          obtain ⟨counterpart, place, final, filled, measures, -, -, found, stored, last⟩ :=
            Region.append_ok_iff.1 second
          obtain ⟨span, same'⟩ := measured_alike same first measures
          have height : (head :: rest).length = (other :: more).length := by
            simpa using congrArg List.length alike
          have width : head.length = other.length := by
            simpa [Row.canonical] using congrArg List.length (List.cons.inj alike).1
          rw [Region.grid_of_remeasure first] at resolved written
          rw [Region.grid_of_remeasure measures] at found stored
          have discreet := Region.append_discreet measured.span.column (head :: rest).length
            head.length
          rw [← Address.resolve_canonical discreet, grids_alike same,
            Address.resolve_canonical discreet, height, width, span, same'] at resolved
          rw [found] at resolved
          obtain ⟨rfl, -⟩ := EStateM.Result.ok.inj resolved
          refine ⟨place, ?_, ?_⟩
          · rw [Region.grid_of_remeasure again]
            exact written
          · rw [Region.grid_of_remeasure last]
            exact stored

end Changes

/-- One request of a run: where it found the region, what it answered, and how it left the
region. -/
structure Moment where
  request : Request
  before : Region
  reply : Except Error Reply
  after : Region

namespace Repository

def moment (repository : Repository) (region : Region) (request : Request) : Moment where
  request := request
  before := region
  reply := (ServiceKind.ended (request.answer repository region)).1
  after := (ServiceKind.ended (request.answer repository region)).2

/-- A run: every request is served where the one before it has left the region, failed or not. -/
def moments (repository : Repository) : Region → List Request → List Moment
  | _, [] => []
  | region, request :: rest =>
      let served := repository.moment region request
      served :: repository.moments served.after rest

end Repository

def Request.inserted : Request → List Entity
  | .insert entity => [entity]
  | .insertMany entities => entities
  | _ => []

/-- What cannot be told apart about the same moment of two runs: the answers, down to errors and
positions, where the region lies, what the grids hold up to blanks and empty texts, in which order
a sort has put the rows, and where inserted entities have gone. Answers are equal cell by cell, but
for `nan`, which equals nothing; it stands in the same places of both. -/
structure Moment.Alike (mapper : EntityMapper) (left right : Moment) : Prop where
  reply : left.reply.map Reply.canonical = right.reply.map Reply.canonical
  equal : ∀ first second, left.reply = .ok first → right.reply = .ok second → first.IsReal →
    first.equals second = true
  span : left.after.span = right.after.span
  grid : left.after.sheet.grid.Alike right.after.sheet.grid
  sorted : ∀ field ascending, left.request = .sort field ascending → left.reply = .ok .done →
    ∃ span order, order.Perm (List.range span.rows) ∧
      left.before.sheet.grid.Reordered left.after.sheet.grid span order ∧
      right.before.sheet.grid.Reordered right.after.sheet.grid span order
  inserted : left.request.inserted ≠ [] → left.reply = .ok .done →
    ∃ target, left.before.sheet.grid.write target (mapper.toRows left.request.inserted) =
        .ok left.after.sheet.grid ∧
      right.before.sheet.grid.write target (mapper.toRows right.request.inserted) =
        .ok right.after.sheet.grid

section Runs

variable {repository : Repository} {region counterpart : Region} {request other : Request}

theorem ended_mirrored {σ α : Type} (onState : σ → σ) (onValue : α → α)
    (result : EStateM.Result Error σ α) :
    ServiceKind.ended (mirrored onState onValue result) =
      ((ServiceKind.ended result).1.map onValue, onState (ServiceKind.ended result).2) := by
  cases result <;> rfl

theorem done_of_reply (done : (repository.moment region request).reply = .ok .done) :
    request.answer repository region = .ok .done (repository.moment region request).after := by
  rw [Repository.moment] at done ⊢
  cases answered : request.answer repository region with
  | ok reply final =>
      rw [answered] at done
      cases done
      rfl
  | error error final =>
      rw [answered] at done
      cases done

theorem sorted_of_done {field : Option String} {ascending : Option Bool} {after : Region}
    (done : (Request.sort field ascending).answer repository region = .ok .done after) :
    repository.sort field ascending region = .ok () after := by
  obtain ⟨⟨⟩, middle, sorted, finished⟩ := bind_ok_iff.1 done
  cases finished
  exact sorted

theorem appended_of_done {after : Region} (nonempty : request.inserted ≠ [])
    (done : request.answer repository region = .ok .done after) :
    Region.append (repository.mapper.toRows request.inserted) region = .ok () after := by
  rw [← Repository.insert_many_apply nonempty]
  cases request with
  | insert entity =>
      obtain ⟨⟨⟩, middle, inserted, finished⟩ := bind_ok_iff.1 done
      cases finished
      exact inserted
  | insertMany entities =>
      obtain ⟨⟨⟩, middle, inserted, finished⟩ := bind_ok_iff.1 done
      cases finished
      exact inserted
  | _ => exact absurd rfl nonempty

theorem inserted_canonical (request : Request) :
    request.canonical.inserted = request.inserted.map Entity.canonical := by
  cases request <;> rfl

theorem done_of_canonical {reply : Except Error Reply}
    (done : reply.map Reply.canonical = .ok .done) : reply = .ok .done := by
  cases reply with
  | error error => cases done
  | ok reply =>
      cases reply with
      | done => rfl
      | _ => cases done

/-- One request, served in both runs. -/
theorem moment_alike (plain : repository.mapper.IsPlain)
    (asked : request.canonical = other.canonical)
    (same : region.canonical = counterpart.canonical) :
    Moment.Alike repository.mapper (repository.moment region request)
        (repository.moment counterpart other) ∧
      (repository.moment region request).after.canonical =
        (repository.moment counterpart other).after.canonical := by
  have mirrors := request.answer_mirrors plain
  have others := other.answer_mirrors plain
  rw [← asked] at others
  have ends := congrArg ServiceKind.ended (same_of_mirrors mirrors others same)
  rw [ended_mirrored, ended_mirrored] at ends
  have reply : (repository.moment region request).reply.map Reply.canonical =
      (repository.moment counterpart other).reply.map Reply.canonical := (Prod.mk.inj ends).1
  have settled : (repository.moment region request).after.canonical =
      (repository.moment counterpart other).after.canonical := (Prod.mk.inj ends).2
  have finishes (done : (repository.moment region request).reply = .ok .done) :
      (repository.moment counterpart other).reply = .ok .done :=
    done_of_canonical (reply.symm.trans (congrArg (Except.map Reply.canonical) done))
  refine ⟨⟨reply, ?equal, ?span, ?grid, ?sorted, ?inserted⟩, settled⟩
  case equal =>
    intro first second answered replied real
    have answers : Except.map Reply.canonical (.ok first : Except Error Reply) =
        Except.map Reply.canonical (.ok second) := by
      rw [← answered, ← replied]
      exact reply
    exact Reply.equals_of_canonical (Except.ok.inj answers) real
  case span => exact spans_alike settled
  case grid => exact Grid.canonical_eq_iff.1 (grids_alike settled)
  case sorted =>
    intro field ascending sort done
    have finished := done_of_reply (finishes done)
    obtain rfl : request = .sort field ascending := sort
    obtain rfl : other = .sort field ascending := by
      cases other <;> cases asked
      rfl
    exact sort_alike same (sorted_of_done (done_of_reply done)) (sorted_of_done finished)
  case inserted =>
    intro nonempty done
    have entities : request.inserted.map Entity.canonical =
        other.inserted.map Entity.canonical := by
      rw [← inserted_canonical, ← inserted_canonical, asked]
    have others : other.inserted ≠ [] := by
      intro nothing
      rw [nothing, List.map_nil, List.map_eq_nil_iff] at entities
      exact nonempty entities
    have rows : (repository.mapper.toRows request.inserted).map Row.canonical =
        (repository.mapper.toRows other.inserted).map Row.canonical := by
      rw [← EntityMapper.to_rows_canonical plain, ← EntityMapper.to_rows_canonical plain, entities]
    exact append_alike same rows (appended_of_done nonempty (done_of_reply done))
      (appended_of_done others (done_of_reply (finishes done)))

theorem moments_alike (plain : repository.mapper.IsPlain) {requests others : List Request}
    (asked : requests.map Request.canonical = others.map Request.canonical)
    (same : region.canonical = counterpart.canonical) :
    List.Forall₂ (Moment.Alike repository.mapper) (repository.moments region requests)
      (repository.moments counterpart others) := by
  induction requests generalizing others region counterpart with
  | nil =>
      have nothing : others = [] := List.map_eq_nil_iff.1 asked.symm
      rw [nothing]
      exact .nil
  | cons request rest induction =>
      cases others with
      | nil => cases asked
      | cons other more =>
          obtain ⟨head, tail⟩ := List.cons.inj asked
          obtain ⟨here, settled⟩ := moment_alike plain head same
          exact .cons here (induction tail settled)

end Runs

/-- Two runs of a repository with requests that are the same up to blanks and empty texts, each
from opening the repository on, on grids that are the same in this sense. Either both fail to open,
with the same error, or both open with the same columns and the same block and go alike from
request to request, through to the grids they leave. -/
theorem Schema.runs_alike {schema : Schema} (plain : schema.IsPlain) {left right : Grid}
    (alike : left.Alike right) {requests others : List Request}
    (asked : requests.map Request.canonical = others.map Request.canonical) :
    match schema.opened left, schema.opened right with
    | .ok (repository, region), .ok (other, counterpart) =>
        other = repository ∧ region.span = counterpart.span ∧
          region.sheet.grid.Alike counterpart.sheet.grid ∧
          List.Forall₂ (Moment.Alike repository.mapper) (repository.moments region requests)
            (repository.moments counterpart others)
    | .error error, .error other => error = other
    | _, _ => False := by
  have starts : Sheet.canonical { grid := left } = Sheet.canonical { grid := right } := by
    rw [Sheet.canonical, Sheet.canonical, Grid.canonical_eq_iff.2 alike]
  have ends := same_of_mirrors (bind_mirrors plain) (bind_mirrors plain) starts
  rw [opened, opened]
  cases first : schema.bind { grid := left } with
  | error error sheet =>
      cases second : schema.bind { grid := right } with
      | error other counterpart =>
          rw [first, second] at ends
          exact (EStateM.Result.error.inj ends).1
      | ok found counterpart =>
          rw [first, second] at ends
          cases ends
  | ok found sheet =>
      cases second : schema.bind { grid := right } with
      | error other counterpart =>
          rw [first, second] at ends
          cases ends
      | ok twin counterpart =>
          rw [first, second] at ends
          obtain ⟨rfl, settled⟩ := EStateM.Result.ok.inj ends
          have regions : Region.canonical ⟨sheet, found.2⟩ =
              Region.canonical ⟨counterpart, found.2⟩ := by
            rw [Region.canonical, Region.canonical, settled]
          exact ⟨rfl, rfl, Grid.canonical_eq_iff.1 (grids_alike regions),
            moments_alike (schema.mapper_plain plain found.1) asked regions⟩

def namelessPeople (nobody : Cell) : Grid :=
  .ofRows "people" [[.string "Bob"], [nobody], [.string "Ann"]]

def namelessRequests (nobody : Cell) : List Request :=
  [.find (Filter.empty.whereEquals "name" nobody), .insert (.ofList [("name", nobody)]),
    .sort (some "name") (some true), .findAndDelete (Filter.empty.whereEquals "name" nobody)]

theorem people_identity (span : Span) (field : String) (column : Column)
    (declared : (field, column) ∈ (peopleSchema span).columns) : column.transform.IsIdentity := by
  obtain ⟨-, rfl⟩ := Prod.mk.inj (List.mem_singleton.1 declared)
  exact fun _ => ⟨rfl, rfl⟩

theorem people_plain (span : Span) : (peopleSchema span).IsPlain := by
  refine ⟨people_identity span, fun _ => ⟨rfl, rfl⟩, ?headers, ?data⟩
  case headers =>
    intro address given
    cases given
  case data =>
    intro address given
    cases given
    intro find resolver left right alike
    cases resolver
    rfl

theorem nameless_runs_alike :
    ∃ repository region counterpart,
      (peopleSchema ⟨1, 1, 3, 1⟩).opened (namelessPeople .empty) = .ok (repository, region) ∧
        (peopleSchema ⟨1, 1, 3, 1⟩).opened (namelessPeople (.string "")) =
          .ok (repository, counterpart) ∧
        List.Forall₂ (Moment.Alike repository.mapper)
          (repository.moments region (namelessRequests (.string "")))
          (repository.moments counterpart (namelessRequests .empty)) := by
  have alike : (namelessPeople .empty).Alike (namelessPeople (.string "")) :=
    Grid.canonical_eq_iff.1 rfl
  have asked : (namelessRequests (.string "")).map Request.canonical =
      (namelessRequests .empty).map Request.canonical := rfl
  obtain ⟨-, -, -, runs⟩ := Schema.runs_alike (people_plain ⟨1, 1, 3, 1⟩) alike asked
  exact ⟨_, _, _, rfl, rfl, runs⟩

/-- The block of people, from the second row on if that one is blank. -/
def watchfulAddress : Address :=
  .ofResolver fun grid =>
    .ok (if grid.cell? 2 1 = some .empty then ⟨2, 1, 2, 1⟩ else ⟨1, 1, 3, 1⟩)

def watchfulSchema : Schema :=
  { peopleSchema ⟨1, 1, 3, 1⟩ with ranges := { data := some watchfulAddress } }

def undefinedPeople (nobody : Cell) : Grid :=
  .ofRows "people" [[nobody], [.number .nan]]

/-- Neither condition can go. A function that finds the block may tell a blank from an empty text,
and an answer with `nan` in it equals no answer, not even itself. -/
theorem runs_told_apart :
    ((∀ field column, (field, column) ∈ watchfulSchema.columns → column.transform.IsIdentity) ∧
      watchfulSchema.transform.IsIdentity ∧
      (namelessPeople .empty).Alike (namelessPeople (.string "")) ∧
      ∃ repository region counterpart,
        watchfulSchema.opened (namelessPeople .empty) = .ok (repository, region) ∧
          watchfulSchema.opened (namelessPeople (.string "")) = .ok (repository, counterpart) ∧
          region.span = ⟨2, 1, 2, 1⟩ ∧ counterpart.span = ⟨1, 1, 3, 1⟩) ∧
    ((peopleSchema ⟨1, 1, 2, 1⟩).IsPlain ∧
      (undefinedPeople .empty).Alike (undefinedPeople (.string "")) ∧
      ∃ repository region counterpart first second,
        (peopleSchema ⟨1, 1, 2, 1⟩).opened (undefinedPeople .empty) = .ok (repository, region) ∧
          (peopleSchema ⟨1, 1, 2, 1⟩).opened (undefinedPeople (.string "")) =
            .ok (repository, counterpart) ∧
          (repository.moment region (.find .empty)).reply = .ok first ∧
          (repository.moment counterpart (.find .empty)).reply = .ok second ∧
          first.equals second = false) := by
  refine ⟨⟨people_identity ⟨1, 1, 3, 1⟩, fun _ => ⟨rfl, rfl⟩, Grid.canonical_eq_iff.1 rfl, ?_⟩,
    people_plain ⟨1, 1, 2, 1⟩, Grid.canonical_eq_iff.1 rfl, ?_⟩
  · exact ⟨_, _, _, rfl, rfl, rfl, rfl⟩
  · exact ⟨_, _, _, _, _, rfl, rfl, rfl, rfl, rfl⟩

end GridStore
