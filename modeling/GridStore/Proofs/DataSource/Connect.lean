import GridStore.Proofs.Columns
import GridStore.Proofs.DataSource.Open

/-!
When connecting succeeds. An entity whose repository has not been opened is connected to exactly if
its schema is known, its sheet is there, its blocks and its headers are found on the sheet, and so
are all headers that its columns ask for. Whatever of that fails first is what is reported.
-/

set_option autoImplicit false

namespace GridStore

theorem ColumnMap.header_of_failed_build {columns : List (String × Column)} {names : List String}
    {cause : Error} (failed : build columns names = .error cause) :
    ∃ named ∈ columns, ∃ header, named.2.selector = .header header ∧ header ∉ names ∧
      cause = .headerNotFound header := by
  rcases except_bind_error_iff.1 failed with unlisted | ⟨entries, -, ended⟩
  · obtain ⟨⟨field, column⟩, member, refused⟩ := failed_of_map_m unlisted
    refine ⟨(field, column), member, ?_⟩
    cases asked : column.selector with
    | position index =>
        simp only [asked, locate] at refused
        cases refused
    | header text =>
        cases found : names.findIdx? (· == text) with
        | some index =>
            simp only [asked, locate, found] at refused
            cases refused
        | none =>
            simp only [asked, locate, found] at refused
            cases refused
            refine ⟨text, rfl, fun listed => ?_, rfl⟩
            simpa using List.findIdx?_eq_none_iff.1 found text listed
  · cases ended

theorem Workbook.position_lt {workbook : Workbook} {selector : Selector} {position : Nat}
    (placed : workbook.position? selector = some position) :
    position < workbook.sheets.length := by
  cases selector with
  | position index =>
      rw [position?] at placed
      split at placed
      · cases placed
        assumption
      · cases placed
  | name text => exact (List.findIdx?_eq_some_iff_getElem.1 placed).1

theorem Workbook.missing_of_failed_select {workbook : Workbook} {selector : Selector}
    {error : Error} (failed : workbook.select selector = .error error) :
    workbook.position? selector = none ∧ error = .sheetNotFound selector := by
  rw [select] at failed
  cases placed : workbook.position? selector with
  | none =>
      rw [placed] at failed
      cases failed
      exact ⟨rfl, rfl⟩
  | some position =>
      simp only [placed, List.getElem?_eq_getElem (position_lt placed)] at failed
      cases failed

theorem outside_of_failed_header_names {headers : Option Span} {sheet after : Sheet}
    {error : Error} (failed : headerNames headers sheet = .error error after) :
    ∃ span cause, headers = some span ∧ sheet.grid.checkBounds span = .error cause ∧
      error = .grid cause := by
  cases headers with
  | none => cases failed
  | some span =>
      refine ⟨span, ?_⟩
      rcases Action.bind_error_iff.1 failed with unread | ⟨rows, middle, -, named⟩
      · rw [Sheet.values, Action.bind_of_ok Action.get_apply, Grid.read] at unread
        cases checked : sheet.grid.checkBounds span with
        | ok nothing =>
            simp only [checked] at unread
            cases unread
        | error cause =>
            simp only [checked] at unread
            cases unread
            exact ⟨cause, rfl, rfl, rfl⟩
      · cases rows <;> cases named

namespace DataSource

/-- The schema of an entity is known, and the workbook has all that it asks for. -/
def Allows (schemas : List Schema) (workbook : Workbook) (selector : Selector) : Prop :=
  ∃ schema sheet grid ranges names map view,
    schemas.find? (fun schema => schema.selector = selector) = some schema ∧
    workbook.select selector = .ok (sheet, grid) ∧ schema.Finds grid ranges names map view

/-- Why an entity is refused, and what is said about it. -/
inductive Refusal (schemas : List Schema) (workbook : Workbook) (selector : Selector) :
    Error → Prop
  | unknown (missing : ∀ schema ∈ schemas, schema.selector ≠ selector) :
      Refusal schemas workbook selector (.entityNotFound selector)
  | noSheet {schema : Schema}
      (described : schemas.find? (fun schema => schema.selector = selector) = some schema)
      (missing : workbook.position? selector = none) :
      Refusal schemas workbook selector
        ((Error.sheetNotFound selector).within ("Entity " ++ selector.display))
  | noBlocks {schema : Schema} {sheet : Nat} {grid : Grid} {cause : Error} {view : Sheet}
      (described : schemas.find? (fun schema => schema.selector = selector) = some schema)
      (selected : workbook.select selector = .ok (sheet, grid))
      (unresolved : EntityRanges.resolve schema.ranges { grid } = .error cause view) :
      Refusal schemas workbook selector (cause.within ("Entity " ++ selector.display))
  | headersOutside {schema : Schema} {sheet : Nat} {grid : Grid} {ranges : EntityRanges}
      {ranged : Sheet} {headers : Span} {cause : GridError}
      (described : schemas.find? (fun schema => schema.selector = selector) = some schema)
      (selected : workbook.select selector = .ok (sheet, grid))
      (resolved : EntityRanges.resolve schema.ranges { grid } = .ok ranges ranged)
      (headed : ranges.headers = some headers) (outside : grid.checkBounds headers = .error cause) :
      Refusal schemas workbook selector
        ((Error.grid cause).within ("Entity " ++ selector.display))
  | noHeader {schema : Schema} {sheet : Nat} {grid : Grid} {ranges : EntityRanges}
      {ranged view : Sheet} {names : List String} {column : String × Column} {header : String}
      (described : schemas.find? (fun schema => schema.selector = selector) = some schema)
      (selected : workbook.select selector = .ok (sheet, grid))
      (resolved : EntityRanges.resolve schema.ranges { grid } = .ok ranges ranged)
      (named : headerNames ranges.headers ranged = .ok names view)
      (asked : column ∈ schema.columns ∧ column.2.selector = .header header)
      (missing : header ∉ names) :
      Refusal schemas workbook selector
        ((Error.headerNotFound header).within ("Entity " ++ selector.display))

variable {source final : DataSource} {selector : Selector} {schema : Schema} {error : Error}

theorem selector_of_described {schemas : List Schema}
    (described : schemas.find? (fun schema => schema.selector = selector) = some schema) :
    schema.selector = selector := by simpa using List.find?_some described

theorem allows_iff_opens
    (described : source.schemas.find? (fun schema => schema.selector = selector) = some schema) :
    Allows source.schemas source.workbook selector ↔ ∃ binding, source.open? schema = .ok binding := by
  have same := selector_of_described described
  constructor
  · rintro ⟨other, sheet, grid, ranges, names, map, view, found, selected, finds⟩
    obtain rfl := Option.some.inj (found.symm.trans described)
    exact ⟨_, open_ok_iff.2 ⟨sheet, grid, map, ranges.data, view, same ▸ selected,
      Schema.bind_ok_iff.2 ⟨ranges, names, finds, rfl⟩, rfl⟩⟩
  · rintro ⟨binding, opened⟩
    obtain ⟨sheet, grid, map, span, view, selected, binds, -⟩ := open_ok_iff.1 opened
    obtain ⟨ranges, names, finds, -⟩ := Schema.bind_ok_iff.1 binds
    exact ⟨schema, sheet, grid, ranges, names, map, view, described, same ▸ selected, finds⟩

theorem refusal_of_failed_open
    (described : source.schemas.find? (fun schema => schema.selector = selector) = some schema)
    (failed : source.open? schema = .error error) :
    Refusal source.schemas source.workbook selector
      (error.within ("Entity " ++ selector.display)) := by
  have same := selector_of_described described
  rw [open?, same] at failed
  cases selected : source.workbook.select selector with
  | error cause =>
      rw [selected] at failed
      cases failed
      obtain ⟨missing, rfl⟩ := Workbook.missing_of_failed_select selected
      exact .noSheet described missing
  | ok place =>
      obtain ⟨sheet, grid⟩ := place
      rw [selected] at failed
      simp only [bind, Except.bind] at failed
      cases bound : schema.bind { grid } with
      | ok found view =>
          rw [bound] at failed
          cases failed
      | error cause view =>
          rw [bound] at failed
          cases failed
          rcases Action.bind_error_iff.1 bound with unresolved | ⟨ranges, ranged, resolved, bound⟩
          · exact .noBlocks described selected unresolved
          · rcases Action.bind_error_iff.1 bound with unread | ⟨names, read, named, bound⟩
            · obtain ⟨headers, cause, headed, outside, rfl⟩ := outside_of_failed_header_names unread
              rw [EntityRanges.grid_of_resolved resolved] at outside
              exact .headersOutside described selected resolved headed outside
            · rcases Action.bind_error_iff.1 bound with unbuilt | ⟨map, last, -, ended⟩
              · cases built : ColumnMap.build schema.columns names with
                | ok map =>
                    rw [built] at unbuilt
                    cases unbuilt
                | error cause =>
                    rw [built] at unbuilt
                    cases unbuilt
                    obtain ⟨column, member, header, asked, missing, rfl⟩ :=
                      ColumnMap.header_of_failed_build built
                    exact .noHeader described selected resolved named ⟨member, asked⟩ missing
              · cases ended

def HasOpened (source : DataSource) (selector : Selector) : Prop :=
  ∃ binding ∈ source.bindings, binding.selector = selector

theorem missing_iff :
    source.bindings.findIdx? (fun binding => binding.selector = selector) = none ↔
      ¬source.HasOpened selector := by
  simp [List.findIdx?_eq_none_iff, HasOpened]

theorem connect_unknown (closed : ¬source.HasOpened selector)
    (unknown : source.schemas.find? (fun schema => schema.selector = selector) = none) :
    connect selector source = .error (.entityNotFound selector) source := by
  rw [connect, Action.bind_of_ok Action.get_apply]
  simp only [missing_iff.2 closed, unknown]
  rfl

theorem connect_refused (closed : ¬source.HasOpened selector)
    (described : source.schemas.find? (fun schema => schema.selector = selector) = some schema)
    (failed : source.open? schema = .error error) :
    connect selector source = .error (error.within ("Entity " ++ selector.display)) source := by
  rw [connect, Action.bind_of_ok Action.get_apply]
  simp only [missing_iff.2 closed, described, failed]
  rfl

/-- Connecting succeeds exactly for the entities that are open, or can be opened. -/
theorem connects_iff :
    (∃ place later, connect selector source = .ok place later) ↔
      source.HasOpened selector ∨ Allows source.schemas source.workbook selector := by
  cases found : source.bindings.findIdx? fun binding => binding.selector = selector with
  | some place =>
      have opened : source.HasOpened selector := by
        by_contra closed
        rw [missing_iff.2 closed] at found
        cases found
      exact iff_of_true ⟨place, source, connect_again found⟩ (Or.inl opened)
  | none =>
      rw [or_iff_right (missing_iff.1 found)]
      cases described : source.schemas.find? fun schema => schema.selector = selector with
      | none =>
          refine iff_of_false ?_ ?_
          · rintro ⟨place, later, connects⟩
            rw [connect_unknown (missing_iff.1 found) described] at connects
            cases connects
          · rintro ⟨schema, -, -, -, -, -, -, known, -⟩
            rw [described] at known
            cases known
      | some schema =>
          rw [allows_iff_opens described]
          simp only [connect_fresh_iff found described]
          constructor
          · rintro ⟨place, later, binding, opened, -, -⟩
            exact ⟨binding, opened⟩
          · rintro ⟨binding, opened⟩
            exact ⟨_, _, binding, opened, rfl, rfl⟩

/-- Connecting that fails changes nothing, and says why. -/
theorem refusal_of_failed_connect (failed : connect selector source = .error error final) :
    final = source ∧ ¬source.HasOpened selector ∧
      Refusal source.schemas source.workbook selector error := by
  by_cases opened : source.HasOpened selector
  · obtain ⟨place, later, connects⟩ := connects_iff.2 (Or.inl opened)
    rw [failed] at connects
    cases connects
  · cases described : source.schemas.find? fun schema => schema.selector = selector with
    | none =>
        rw [connect_unknown opened described] at failed
        cases failed
        refine ⟨rfl, opened, .unknown fun schema member same => ?_⟩
        simpa [same] using List.find?_eq_none.1 described schema member
    | some schema =>
        cases bound : source.open? schema with
        | ok binding =>
            rw [(connect_fresh_iff (missing_iff.2 opened) described).2 ⟨binding, bound, rfl, rfl⟩]
              at failed
            cases failed
        | error cause =>
            rw [connect_refused opened described bound] at failed
            cases failed
            exact ⟨rfl, opened, refusal_of_failed_open described bound⟩

end DataSource

end GridStore
