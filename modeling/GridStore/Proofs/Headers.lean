import GridStore.Proofs.DataSource.Open
import GridStore.Proofs.Delete
import GridStore.Proofs.Failure
import GridStore.Proofs.Insert
import GridStore.Proofs.Region.Spared

/-!
Headers of a region whose data lies right below them. The first row of the headers, from which the
names of columns are read, stays as it is whatever the repository is asked for, as long as
something on the sheet keeps new rows from being put into it.
-/

set_option autoImplicit false

namespace GridStore

theorem Frame.related_final {σ α : Type} {frame : Frame σ} {action : Action σ α} {state : σ}
    (keeps : frame.KeepsFrom action state) : frame.related state (action.final state) := by
  rw [Action.final]
  cases ran : action state with
  | ok value after => exact keeps.on_ok ran
  | error error after => exact keeps.on_error ran

/-- What holds of a visitor's state after every row it is shown holds when the scan is over. -/
theorem EntityMapper.scan_from_preserves {σ : Type} (mapper : EntityMapper) {visit : Visitor σ}
    (good : σ → Prop) {bound : Nat}
    (step : ∀ state entity index stopped, index < bound → good state →
      good (visit state entity index stopped).1)
    {rows : List Row} {index : Nat} {state : σ} (inside : index + rows.length ≤ bound)
    (start : good state) : good (mapper.scanFrom visit index state rows).2 := by
  induction rows generalizing index state with
  | nil => exact start
  | cons row rest induction =>
      rw [List.length_cons] at inside
      have shown := step state (mapper.load row index).1 index (mapper.load row index).2
        (by omega) start
      rw [scanFrom]
      dsimp only
      split
      · exact shown
      · exact induction (by omega) shown

namespace Repository

variable {block : Span} {region after : Region}

theorem collected_inside (mapper : EntityMapper) (filter : Filter) (firstOnly : Bool)
    (rows : List Row) :
    ∀ index ∈ (mapper.scan (collectIndexes filter firstOnly) [] rows).2, index < rows.length := by
  refine mapper.scan_from_preserves (fun found => ∀ index ∈ found, index < rows.length) ?_
    (Nat.le_of_eq (Nat.zero_add _)) (List.forall_mem_nil _)
  intro found entity index stopped inside held
  rw [collectIndexes]
  split
  · exact List.forall_mem_append.2 ⟨held, List.forall_mem_singleton.2 inside⟩
  · exact held

theorem delete_spares (fixed : block.IsFixed) (attached : region.Attached block)
    (repository : Repository) (filter : Filter) (firstOnly : Bool) :
    (Region.sparingFrame block).KeepsFrom (repository.delete filter firstOnly) region := by
  unfold delete
  refine Frame.keeps_from_bind (Frame.keeps_from (Frame.keeps_of_same (scan_keeps_region _ _ _)))
    fun found middle scanned => ?_
  obtain rfl : middle = region := (scan_keeps_region _ _ _).on_ok scanned
  refine Frame.keeps_from_bind (Region.clear_rows_spares fixed attached ?_) fun _ _ _ =>
    Frame.keeps_from (Frame.keeps_pure _)
  rw [Region.scan_apply] at scanned
  cases read : middle.sheet.grid.read middle.span with
  | error cause =>
      rw [read] at scanned
      cases scanned
  | ok rows =>
      rw [read] at scanned
      cases scanned
      obtain ⟨readable, rfl⟩ := Grid.read_ok_iff.1 read
      have follows := attached.follows
      have bound : Size.bound = Size.largest + 1 := rfl
      have bottom := follows.addressable.2.1
      intro row member
      obtain ⟨index, listed, rfl⟩ := List.mem_map.1 member
      have inside := collected_inside repository.mapper filter firstOnly _ index listed
      rw [Grid.length_block readable] at inside
      rw [Size.wrapped, Nat.mod_eq_of_lt (by omega), ← follows.row]
      omega

theorem insert_many_spares (fixed : block.IsFixed) (attached : region.Attached block)
    (repository : Repository) (entities : List Entity) :
    (Region.sparingFrame block).KeepsFrom (repository.insertMany entities) region := by
  unfold insertMany Region.appendEntities
  by_cases nothing : entities.isEmpty = true
  · rw [if_pos nothing]
    exact Frame.keeps_from (Frame.keeps_pure _)
  · rw [if_neg nothing]
    exact Region.append_spares fixed attached _

/-- Searches leave the region as it is, so a request stays within a frame if the operations that
may change something do. -/
theorem related_of_serve {frame : Frame Region} (repository : Repository) (request : Request)
    (deletes : ∀ filter firstOnly, frame.KeepsFrom (repository.delete filter firstOnly) region)
    (inserts : ∀ entities, frame.KeepsFrom (repository.insertMany entities) region)
    (sorts : ∀ options, frame.KeepsFrom (Region.sort options) region) :
    frame.related region ((request.serve repository).final region) := by
  cases request with
  | find filter =>
      rw [Request.serve, DataSource.final_discard]
      exact Frame.related_final (Frame.keeps_from
        (Frame.keeps_of_same (find_keeps_region repository filter)))
  | findOne filter =>
      rw [Request.serve, DataSource.final_discard]
      exact Frame.related_final (Frame.keeps_from
        (Frame.keeps_of_same (find_one_keeps_region repository filter)))
  | findAndDelete filter =>
      rw [Request.serve, DataSource.final_discard]
      exact Frame.related_final (deletes filter false)
  | deleteOne filter =>
      rw [Request.serve, DataSource.final_discard]
      exact Frame.related_final (deletes filter true)
  | insert entity => exact Frame.related_final (inserts [entity])
  | insertMany entities => exact Frame.related_final (inserts entities)
  | sort field ascending => exact Frame.related_final (sorts _)

theorem serve_spares (fixed : block.IsFixed) (attached : region.Attached block)
    (repository : Repository) (request : Request) :
    ((request.serve repository).final region).Attached block ∧
      Grid.Spared block region.sheet.grid
        ((request.serve repository).final region).sheet.grid := by
  suffices related : (Region.sparingFrame block).related region
      ((request.serve repository).final region) from related attached
  apply related_of_serve repository request
  · exact delete_spares fixed attached repository
  · exact insert_many_spares fixed attached repository
  · exact Region.sort_spares fixed attached

end Repository

/-- The row of a block of headers that the names of columns are read from. -/
def Span.firstRow (span : Span) : Span := { span with rows := 1 }

/-- Every cell of a block is there, and holds the same value, before and after. -/
def Grid.Untouched (block : Span) (before after : Grid) : Prop :=
  ∀ row column, block.covers row column = true →
    ∃ cell, before.cell? row column = some cell ∧ after.cell? row column = some cell

namespace DataSource

variable {source connected opened : DataSource} {selector : Selector} {place : Nat}
  {binding : Binding} {region : Region} {headers block : Span} {grid : Grid}

/-- Whatever is asked of a repository, one request after another, its grid is good. -/
def HoldsThroughout (source : DataSource) (selector : Selector) (sheet : Nat)
    (good : Grid → Prop) : Prop :=
  ∀ requests : List Request, ∃ after,
    (source.afterAll (requests.map (Event.ask selector))).workbook.sheets[sheet]? = some after ∧
      good after

theorem access_after (access : Access source selector connected place binding region)
    (request : Request) :
    Access (source.after (.ask selector request)) selector
      (source.after (.ask selector request)) place
      { binding with
        cache := ((request.serve binding.repository).final region).sheet.cache
        span := ((request.serve binding.repository).final region).span }
      ((request.serve binding.repository).final region) := by
  have served : source.after (.ask selector request) =
      connected.putRegion place binding ((request.serve binding.repository).final region) :=
    final_run_of_access access
  rw [served]
  exact access_again access _

theorem spared_throughout (fixed : block.IsFixed)
    (access : Access source selector connected place binding region)
    (attached : region.Attached block) :
    source.HoldsThroughout selector binding.sheet (Grid.Spared block region.sheet.grid) := by
  intro requests
  -- From one request to the next the source and the region change, and the attachment is kept.
  induction requests generalizing source connected binding region with
  | nil => exact ⟨region.sheet.grid, grid_of_access access, Grid.spared_of_same block rfl⟩
  | cons request rest induction =>
      obtain ⟨still, early⟩ :=
        Repository.serve_spares fixed attached binding.repository request
      obtain ⟨after, stored, late⟩ := induction (access_after access request) still
      exact ⟨after, stored, Grid.spared_trans early late⟩

/-- The data block of a repository begins right below the first row of its headers, where it stays
when it is measured again. -/
theorem block_below (opens : OpensBelow source selector headers opened place binding grid)
    (exact : headers.row < exactBound) :
    binding.span.row = headers.row + 1 ∧ binding.span.IsFixed ∧
      binding.span.Follows binding.span := by
  obtain ⟨-, cache, final, measured⟩ := measured_below opens
  obtain ⟨row, column, columns, addressable⟩ :=
    Address.rounded_of_numbers measured
  have below : binding.span.row = headers.row + 1 :=
    row.eq_of_kept (Address.kept_of_exact (Nat.succ_pos headers.row) exact)
  refine ⟨below, ⟨?_, row.kept, column.kept, columns.kept⟩, rfl, rfl, rfl, addressable⟩
  rw [below]
  exact exact

theorem first_row_untouched (readable : grid.checkBounds headers = .ok ())
    (below : block.row = headers.row + 1) {after : Grid} (spared : Grid.Spared block grid after) :
    Grid.Untouched headers.firstRow grid after := by
  obtain ⟨⟨top, left, height, width⟩, bottom, right⟩ := Grid.inside_of_check readable
  intro row column covered
  obtain ⟨⟨low, high⟩, leftmost, rightmost⟩ := Span.covers_iff.1 covered
  simp only [Span.firstRow] at low high leftmost rightmost
  have allocated : (1 ≤ row ∧ row ≤ grid.rows.length) ∧ 1 ≤ column ∧ column ≤ grid.columns := by
    omega
  obtain ⟨cell, held⟩ := Option.isSome_iff_exists.1 ((grid.isSome_cell? row column).2 allocated)
  have above : row < block.row := by omega
  exact ⟨cell, held, spared.kept row column cell (Or.inl above) held⟩

/-- The first row of the headers stays as it was when the repository was opened, whatever is asked
of the repository, provided that something keeps new rows from being put there: content in that
row, or further down beside the columns of the data block. -/
theorem first_header_row_survives
    (opens : OpensBelow source selector headers opened place binding grid)
    (exact : headers.row < exactBound)
    (content : ∃ row column cell, headers.row ≤ row ∧ binding.span.Spares row column ∧
      grid.cell? row column = some cell ∧ cell.isBlank = false) :
    binding.span.row = headers.row + 1 ∧
      opened.HoldsThroughout selector binding.sheet (Grid.Untouched headers.firstRow grid) := by
  obtain ⟨below, fixed, follows⟩ := block_below opens exact
  obtain ⟨row, column, cell, low, spares, held, filled⟩ := content
  have attached : Region.Attached binding.span ⟨⟨grid, binding.cache⟩, binding.span⟩ :=
    ⟨follows, row, column, cell, by omega, spares, held, filled⟩
  refine ⟨below, fun requests => ?_⟩
  obtain ⟨after, stored, spared⟩ :=
    spared_throughout fixed (access_of_opens opens) attached requests
  exact ⟨after, stored, first_row_untouched (measured_below opens).1 below spared⟩

def titledPeople : Grid := .ofRows "people" [[.string "name"], [.string "Ann"]]

theorem people_keep_their_title :
    ∃ cache, OpensBelow (headedSource titledPeople ⟨1, 1, 1, 1⟩) (.name "people") ⟨1, 1, 1, 1⟩
        (headedPeople titledPeople ⟨1, 1, 1, 1⟩ cache) 0
        (headedBinding ⟨1, 1, 1, 1⟩ titledPeople.maxRows cache) titledPeople ∧
      (headedPeople titledPeople ⟨1, 1, 1, 1⟩ cache).HoldsThroughout (.name "people") 0
        (Grid.Untouched ⟨1, 1, 1, 1⟩ titledPeople) := by
  obtain ⟨cache, opens⟩ := headed_source_opens titledPeople ⟨1, 1, 1, 1⟩ rfl
    ⟨by decide, by decide⟩ (by decide) rfl (by decide)
  have title : titledPeople.cell? 1 1 = some (.string "name") := rfl
  exact ⟨cache, opens, (first_header_row_survives opens (by decide)
    ⟨1, 1, _, Nat.le_refl 1, Or.inl (Nat.lt_succ_self 1), title, rfl⟩).2⟩

theorem touched_by_request
    (opens : OpensBelow source selector headers opened place binding grid) (request : Request)
    {after : Region} {row column : Nat} {cell : Cell}
    (served : (request.serve binding.repository).final ⟨⟨grid, binding.cache⟩, binding.span⟩ =
      after)
    (covered : headers.covers row column = true)
    (changed : after.sheet.grid.cell? row column = some cell)
    (new : grid.cell? row column ≠ some cell) :
    ¬opened.HoldsThroughout selector binding.sheet (Grid.Untouched headers grid) := by
  intro holds
  obtain ⟨final, stored, untouched⟩ := holds [request]
  have last := grid_of_access (access_after (access_of_opens opens) request)
  rw [served] at last
  obtain rfl := Option.some.inj (stored.symm.trans last)
  obtain ⟨held, before, same⟩ := untouched row column covered
  rw [changed] at same
  exact new (same ▸ before)

def untitledPeople : Grid := .blank "people" 2 1

def twiceTitledPeople : Grid :=
  .ofRows "people" [[.string "name"], [.string "(in full)"], [.string "Ann"]]

/-- The first person is put into blank headers, and a deletion of everybody blanks all rows of the
headers but the first. -/
theorem headers_may_change :
    (∃ cache, OpensBelow (headedSource untitledPeople ⟨1, 1, 1, 1⟩) (.name "people") ⟨1, 1, 1, 1⟩
        (headedPeople untitledPeople ⟨1, 1, 1, 1⟩ cache) 0
        (headedBinding ⟨1, 1, 1, 1⟩ untitledPeople.maxRows cache) untitledPeople ∧
      ¬(headedPeople untitledPeople ⟨1, 1, 1, 1⟩ cache).HoldsThroughout (.name "people") 0
        (Grid.Untouched ⟨1, 1, 1, 1⟩ untitledPeople)) ∧
    ∃ cache, OpensBelow (headedSource twiceTitledPeople ⟨1, 1, 2, 1⟩) (.name "people") ⟨1, 1, 2, 1⟩
        (headedPeople twiceTitledPeople ⟨1, 1, 2, 1⟩ cache) 0
        (headedBinding ⟨1, 1, 2, 1⟩ twiceTitledPeople.maxRows cache) twiceTitledPeople ∧
      ¬(headedPeople twiceTitledPeople ⟨1, 1, 2, 1⟩ cache).HoldsThroughout (.name "people") 0
        (Grid.Untouched ⟨1, 1, 2, 1⟩ twiceTitledPeople) := by
  constructor
  · have exact : untitledPeople.IsExact := ⟨by decide, by decide⟩
    obtain ⟨cache, opens⟩ := headed_source_opens untitledPeople ⟨1, 1, 1, 1⟩ rfl exact
      (by decide) rfl (by decide)
    obtain ⟨after, inserts, exactAfter⟩ := Repository.insert_person_into "Ann" ⟨2, 1, 1, 1⟩ cache
      exact rfl (by decide)
    have added := Repository.added_of_insert (List.cons_ne_nil _ _) exact exactAfter inserts
    have title : after.sheet.grid.cell? 1 1 = some (.string "Ann") := added.holds 0 _ 0 _ rfl rfl
    exact ⟨cache, opens, touched_by_request opens (.insert (Repository.person "Ann"))
      (final_of_ok inserts) rfl title (by decide)⟩
  · have exact : twiceTitledPeople.IsExact := ⟨by decide, by decide⟩
    obtain ⟨cache, opens⟩ := headed_source_opens twiceTitledPeople ⟨1, 1, 2, 1⟩ rfl exact
      (by decide) rfl (by decide)
    let region : Region := ⟨⟨twiceTitledPeople, cache⟩, ⟨2, 1, 2, 1⟩⟩
    have readable : region.sheet.grid.checkBounds region.span = .ok () := rfl
    have steady : (peopleBinding ⟨2, 1, 2, 1⟩).repository.mapper.IsSteady := fun row index => rfl
    obtain ⟨deletion, after, deletes, indexes, deleted⟩ :=
      Repository.delete_of_steady steady .empty exact readable
    have first : 0 ∈ deletion.indexes := by
      rw [indexes]
      exact Repository.mem_matching_iff.2 ⟨_, rfl, rfl⟩
    have title : after.sheet.grid.cell? 2 1 = some .empty :=
      deleted.blanked 0 first 1 (Nat.le_refl 1) (Nat.le_refl 1)
    have served := final_discard
      ((peopleBinding ⟨2, 1, 2, 1⟩).repository.findAndDelete .empty) region
    rw [final_of_ok deletes] at served
    exact ⟨cache, opens, touched_by_request opens (.findAndDelete .empty) served rfl title
      (by decide)⟩

end DataSource

end GridStore
