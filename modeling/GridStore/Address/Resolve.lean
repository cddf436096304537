import GridStore.A1.Read
import GridStore.Address.Basic
import GridStore.Expression

/-!
Resolving addresses to blocks of a grid.

Metrics are measured when an address asks for them and are then taken from the cache, so resolving
is a computation over the cache that may fail and keeps what it has measured even then.
-/

set_option autoImplicit false

namespace GridStore

/-- A computation over some state that keeps the state reached when it fails. -/
abbrev Action (σ α : Type) := EStateM Error σ α

namespace Action

def ofExcept {σ ε α : Type} (wrap : ε → Error) : Except ε α → Action σ α
  | .ok value => pure value
  | .error cause => throw (wrap cause)

end Action

namespace Address

def measured (grid : Grid) (metric : Metric) : Action MetricCache Nat := do
  let (value, cache) := (← get).measure grid metric
  set cache
  return value

/-- Replaces a metric's symbol by its value where it stands alone. It is measured as soon as the
symbol occurs at all. -/
def substitute (grid : Grid) (text : List Char) (metric : Metric) :
    Action MetricCache (List Char) := do
  if Text.occursIn metric.symbol text then
    let value ← measured grid metric
    return Text.replaceWord metric.symbol (Nat.toDigits 10 value) text
  else return text

def substituted (grid : Grid) (text : List Char) : Action MetricCache (List Char) :=
  Metric.all.foldlM (substitute grid) text

/-- The value of a token, truncated toward zero. -/
def coordinate (grid : Grid) (token : AddressToken) : Action MetricCache Number :=
  match token with
  | .number value => return value.trunc
  | .text content => do
      let expression ← substituted grid content.toList
      let failure := Error.range (.notANumber (String.ofList expression))
      match Expression.evaluate? expression with
      | some value => if value.isFinite then return value.trunc else throw failure
      | none => throw failure
  | other => throw (.range (.notANumber other.display))

def orOne (token : AddressToken) : AddressToken :=
  if token.isPresent then token else .number (.ofNat 1)

/-- Too small or too large for a size. Sizes are compared after rounding to a number. -/
def isNoSize (value : Number) : Bool :=
  value.compare (.zero false) == some .lt ||
    (value.compare (.ofNat Size.bound)).any Ordering.isGE

def resolveTokens (grid : Grid) (address : Address) : Action MetricCache Span := do
  let row ← coordinate grid address.row
  let column ← coordinate grid address.column
  let rows ← coordinate grid (orOne address.rows)
  let columns ← coordinate grid (orOne address.columns)
  let coordinates := [row, column, rows, columns]
  if coordinates.any Number.isZero then throw (.range (.badSignature address.signature))
  if coordinates.any isNoSize then
    throw (.range (.incorrect (",".intercalate (coordinates.map Number.display))))
  Action.ofExcept .range
    (Span.validated ⟨row.toNat, column.toNat, rows.toNat, columns.toNat⟩)

def resolveA1 (grid : Grid) (text : String) : Action MetricCache Span := do
  let maxRows ← measured grid .maxRows
  let maxColumns ← measured grid .maxColumns
  Action.ofExcept .range (Span.ofA1 text maxRows maxColumns)

def resolveParts (grid : Grid) (address : Address) : Action MetricCache Span :=
  let failure := Error.range (.badSignature address.signature)
  match address.row with
  | .resolver find => do
      let span ← Action.ofExcept .resolver (find grid)
      Action.ofExcept .range span.validated
  | row =>
      if row.isPresent && address.column.isPresent then resolveTokens grid address
      else match row with
        | .text content =>
            if (lenientNumber? content.toList).isNone then resolveA1 grid content
            else throw failure
        | _ => throw failure

def resolve (grid : Grid) (address : Address) : Action MetricCache Span :=
  match address.row with
  | .text content =>
      if content.toList.contains ',' then resolveParts grid (split content.toList)
      else resolveParts grid address
  | _ => resolveParts grid address

end Address

end GridStore
