import GridStore.Grid.Basic

/-!
The four measures of a grid that addresses can refer to, and a cache of them.

A cache answers with what it measured first until it is emptied, even when the grid has changed
in the meantime.
-/

set_option autoImplicit false

namespace GridStore

inductive Metric where
  | lastRow
  | lastColumn
  | maxRows
  | maxColumns
deriving DecidableEq, Repr

namespace Metric

/-- All metrics, in the order in which they are put into expressions. -/
def all : List Metric := [.lastRow, .lastColumn, .maxRows, .maxColumns]

def symbol : Metric → List Char
  | .lastRow => ['l', 'r']
  | .lastColumn => ['l', 'c']
  | .maxRows => ['m', 'r']
  | .maxColumns => ['m', 'c']

end Metric

def Grid.measure (grid : Grid) : Metric → Nat
  | .lastRow => grid.lastRow
  | .lastColumn => grid.lastColumn
  | .maxRows => grid.maxRows
  | .maxColumns => grid.maxColumns

abbrev MetricCache := Metric → Option Nat

namespace MetricCache

def empty : MetricCache := fun _ => none

/-- The cached measure, or else a new one that is cached from now on. -/
def measure (cache : MetricCache) (grid : Grid) (metric : Metric) : Nat × MetricCache :=
  match cache metric with
  | some value => (value, cache)
  | none =>
      let value := grid.measure metric
      (value, fun other => if other = metric then some value else cache other)

end MetricCache

end GridStore
