import GridStore.Proofs.Action.Mirror
import GridStore.Proofs.Canonical.Grid

/-!
Regions on canonical grids. Every operation on the canonical form of a region goes as on the region
itself: with the same addresses, the same measures, and the same errors. It ends in the canonical
form of what the region ends in.
-/

set_option autoImplicit false

namespace GridStore

namespace Address

variable {left right : Grid}

/-- A function in an address does not tell blanks from empty texts. -/
def IsDiscreet (address : Address) : Prop :=
  ∀ find, address.row = .resolver find → ∀ left right : Grid, left.Alike right →
    find left = find right

theorem discreet_of_row {address : Address} (plain : ∀ find, address.row ≠ .resolver find) :
    address.IsDiscreet := fun find resolver => absurd resolver (plain find)

theorem measured_congr (same : left.measure = right.measure) (metric : Metric) :
    measured left metric = measured right metric := by
  simp only [measured, MetricCache.measure, same]

theorem substituted_congr (same : left.measure = right.measure) (text : List Char) :
    substituted left text = substituted right text := by
  have step : substitute left = substitute right := by
    funext text metric
    simp only [substitute, measured_congr same]
  rw [substituted, substituted, step]

theorem coordinate_congr (same : left.measure = right.measure) (token : AddressToken) :
    coordinate left token = coordinate right token := by
  cases token with
  | text content => simp only [coordinate, substituted_congr same]
  | _ => rfl

theorem resolve_tokens_congr (same : left.measure = right.measure) (address : Address) :
    resolveTokens left address = resolveTokens right address := by
  simp only [resolveTokens, coordinate_congr same]

theorem resolve_a1_congr (same : left.measure = right.measure) (text : String) :
    resolveA1 left text = resolveA1 right text := by
  simp only [resolveA1, measured_congr same]

theorem resolve_parts_canonical {address : Address} (discreet : address.IsDiscreet) (grid : Grid) :
    resolveParts grid.canonical address = resolveParts grid address := by
  have same := Grid.measure_canonical grid
  rw [resolveParts, resolveParts, resolve_tokens_congr same]
  cases given : address.row with
  | resolver find =>
      simp only [discreet find given grid.canonical grid grid.alike_canonical]
  | text content => simp only [resolve_a1_congr same]
  | _ => rfl

theorem row_of_tokens (tokens : List AddressToken) :
    (ofTokens tokens).row = tokens.head?.getD .missing := by
  match tokens with
  | [] | [_] | [_, _] | [_, _, _] | _ :: _ :: _ :: _ :: _ => rfl

theorem part_no_resolver (part : List Char) (find : Grid → Except String Span) :
    tokenOfPart part ≠ .resolver find := by
  unfold tokenOfPart
  split
  · split <;> simp
  · simp

theorem split_discreet (text : List Char) : (split text).IsDiscreet := by
  apply discreet_of_row
  intro find resolver
  rw [split, row_of_tokens] at resolver
  cases listed : parts ',' text with
  | nil =>
      rw [listed] at resolver
      cases resolver
  | cons part rest =>
      rw [listed] at resolver
      exact part_no_resolver part find resolver

theorem resolve_canonical {address : Address} (discreet : address.IsDiscreet) (grid : Grid) :
    address.resolve grid.canonical = address.resolve grid := by
  have whole := resolve_parts_canonical discreet grid
  rw [resolve, resolve]
  cases given : address.row with
  | text content =>
      simp only [resolve_parts_canonical (split_discreet content.toList) grid, whole]
  | _ => exact whole

end Address

open GridStore.Action

namespace Sheet

def canonical (sheet : Sheet) : Sheet := { sheet with grid := sheet.grid.canonical }

theorem range_mirrors {address : Address} (discreet : address.IsDiscreet) :
    Mirrors canonical id (range address) (range address) := by
  intro sheet
  have same := Address.resolve_canonical discreet sheet.grid
  rw [range, range, canonical]
  simp only [same]
  cases address.resolve sheet.grid sheet.cache <;> rfl

theorem invalidate_mirrors : Mirrors canonical id invalidate invalidate :=
  mirrors_modify fun _ => rfl

theorem values_mirror (span : Span) :
    Mirrors canonical (List.map Row.canonical) (values span) (values span) := by
  unfold values
  refine mirrors_bind mirrors_get fun sheet => ?_
  exact mirrors_of_except (Grid.read_canonical sheet.grid span)

theorem change_mirrors (change : GridChange) :
    Mirrors canonical id (Sheet.change change.apply) (Sheet.change change.canonical.apply) := by
  unfold Sheet.change
  refine mirrors_bind mirrors_get fun sheet => ?_
  refine mirrors_bind invalidate_mirrors fun _ => ?_
  have same : change.canonical.apply (canonical sheet).grid =
      (change.apply sheet.grid).map Grid.canonical := change.apply_canonical sheet.grid
  rw [same]
  cases change.apply sheet.grid with
  | ok grid => exact mirrors_modify fun _ => rfl
  | error cause => exact mirrors_throw _

end Sheet

namespace Region

def canonical (region : Region) : Region := { region with sheet := region.sheet.canonical }

theorem on_sheet_mirrors {α : Type} {onValue : α → α} {action mirror : Action Sheet α}
    (mirrors : Mirrors Sheet.canonical onValue action mirror) :
    Mirrors canonical onValue (onSheet action) (onSheet mirror) := by
  intro region
  have same := mirrors region.sheet
  rw [onSheet, onSheet, canonical]
  simp only [same]
  cases action region.sheet <;> rfl

theorem remeasure_mirrors : Mirrors canonical id remeasure remeasure := by
  unfold remeasure
  refine mirrors_bind mirrors_get fun region => ?_
  refine mirrors_bind (on_sheet_mirrors Sheet.invalidate_mirrors) fun _ => ?_
  have discreet : (addressToBottom region.span.row region.span.column
      region.span.columns).IsDiscreet := Address.discreet_of_row fun _ => nofun
  refine mirrors_bind (on_sheet_mirrors (Sheet.range_mirrors discreet)) fun measured => ?_
  exact mirrors_modify fun _ => rfl

theorem values_mirror : Mirrors canonical (List.map Row.canonical) values values := by
  unfold values
  refine mirrors_bind mirrors_get fun region => ?_
  exact on_sheet_mirrors (Sheet.values_mirror region.span)

theorem append_discreet (column rows columns : Nat) :
    (appendAddress column rows columns).IsDiscreet := Address.discreet_of_row fun _ => nofun

theorem append_mirrors (rows : List Row) :
    Mirrors canonical id (append rows) (append (rows.map Row.canonical)) := by
  cases rows with
  | nil => exact mirrors_throw _
  | cons head rest =>
      have width : (Row.canonical head).length = head.length := List.length_map _
      have height : (Row.canonical head :: rest.map Row.canonical).length =
          (head :: rest).length := congrArg (· + 1) (List.length_map _)
      have even : (Row.canonical head :: rest.map Row.canonical).any
          (fun row => row.length != head.length) =
            (head :: rest).any fun row => row.length != head.length := by
        simp only [List.any_cons, List.any_map, Function.comp_def, Row.canonical, List.length_map]
      rw [List.map_cons]
      unfold append
      refine mirrors_bind remeasure_mirrors fun _ => ?_
      refine mirrors_bind mirrors_get fun region => ?_
      simp only [width, height, even]
      refine mirrors_guard (mirrors_guard ?_)
      have discreet := append_discreet region.span.column (head :: rest).length head.length
      refine mirrors_bind (on_sheet_mirrors (Sheet.range_mirrors discreet)) fun target => ?_
      have writes := Sheet.change_mirrors (.write target (head :: rest))
      exact mirrors_bind (on_sheet_mirrors writes) fun _ => remeasure_mirrors

theorem sort_mirrors (options : SortOptions) :
    Mirrors canonical id (sort options) (sort options) := by
  unfold sort
  refine mirrors_bind remeasure_mirrors fun _ => ?_
  refine mirrors_bind mirrors_get fun region => ?_
  have sorts := Sheet.change_mirrors (.sort region.span (sortColumn region.span options.column)
    (options.ascending.getD false))
  exact mirrors_bind (on_sheet_mirrors sorts) fun _ => remeasure_mirrors

theorem clear_rows_mirrors (rows : List Nat) :
    Mirrors canonical id (clearRows rows) (clearRows rows) := by
  unfold clearRows
  by_cases nothing : rows.isEmpty = true
  · rw [if_pos nothing]
    exact mirrors_pure _
  · rw [if_neg nothing]
    refine mirrors_bind remeasure_mirrors fun _ => ?_
    refine mirrors_bind mirrors_get fun region => ?_
    have finds : ∀ row, Mirrors canonical id
        (do return (← onSheet (Sheet.range (rowAddress region.span row))).a1)
        (do return (← onSheet (Sheet.range (rowAddress region.span row))).a1) := fun row =>
      mirrors_bind
        (on_sheet_mirrors (Sheet.range_mirrors (Address.discreet_of_row fun _ => nofun)))
        fun found => mirrors_pure _
    refine mirrors_bind (mirrors_map_m finds rows) fun addresses => ?_
    have clears := Sheet.change_mirrors (.clear addresses)
    exact mirrors_bind (on_sheet_mirrors clears) fun _ => remeasure_mirrors

end Region

end GridStore
