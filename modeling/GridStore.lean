import GridStore.DataSource
import GridStore.Filter.Equality
import GridStore.Filter.OfJson
import GridStore.Schema.OfJson
import GridStore.Proofs.Number.Numeral
import GridStore.Proofs.Expression.Numeral
import GridStore.Proofs.Action
import GridStore.Proofs.Address.Coordinate
import GridStore.Proofs.Address.Resolve
import GridStore.Proofs.Region.Address
import GridStore.Proofs.A1.RoundTrip
import GridStore.Proofs.Grid.Cells
import GridStore.Proofs.Region.Steps
import GridStore.Proofs.Region.Lines
import GridStore.Proofs.Scan
import GridStore.Proofs.DataSource.Run
import GridStore.Proofs.Find
import GridStore.Proofs.Delete
import GridStore.Proofs.Row
import GridStore.Proofs.Insert
import GridStore.Proofs.ReadBack
import GridStore.Proofs.Action.Frame
import GridStore.Proofs.Number.Rounded
import GridStore.Proofs.Region.Failure
import GridStore.Proofs.Failure
import GridStore.Proofs.Cell.Order
import GridStore.Proofs.Grid.Sort
import GridStore.Proofs.Sort
import GridStore.Proofs.Filter.Meaning
import GridStore.Proofs.Grid.Spared
import GridStore.Proofs.Region.Spared
import GridStore.Proofs.Headers
import GridStore.Proofs.DataSource.Open
import GridStore.Proofs.A1.Checked
import GridStore.Proofs.A1.Bounds
import GridStore.Proofs.Text.Replace
import GridStore.Proofs.Address.Known
import GridStore.Proofs.Address.Addressable
import GridStore.Proofs.Number.Integer
import GridStore.Proofs.Address.Formula
import GridStore.Proofs.Number.Signed
import GridStore.Proofs.Address.Part
import GridStore.Proofs.Address.Symbolic
import GridStore.Proofs.Expression.Derived
import GridStore.Proofs.Expression.Written
import GridStore.Proofs.Address.Direct
import GridStore.Proofs.Region.Uncached
import GridStore.Proofs.Region.Sharing
import GridStore.Proofs.Region.Frame
import GridStore.Proofs.Region.Anchored
import GridStore.Proofs.DataSource.Follow
import GridStore.Proofs.DataSource.Unplaced
import GridStore.Proofs.Spans
import GridStore.Proofs.Number.Nearest
import GridStore.Proofs.Number.Shortest
import GridStore.Proofs.Number.Display
import GridStore.Proofs.Address.Reread
import GridStore.Proofs.Address.Joined
import GridStore.Proofs.Columns
import GridStore.Proofs.Region.Columns
import GridStore.Proofs.HeaderColumns
import GridStore.Proofs.Leftover
import GridStore.Proofs.Filter.Calls
import GridStore.Proofs.FirstMatch
import GridStore.Proofs.Grid.Slices
import GridStore.Proofs.Grid.Store
import GridStore.Proofs.Action.Mirror
import GridStore.Proofs.Canonical.Cell
import GridStore.Proofs.Canonical.Filter
import GridStore.Proofs.Canonical.Grid
import GridStore.Proofs.Canonical.Region
import GridStore.Proofs.Canonical.Repository
import GridStore.Proofs.Canonical.Run
import GridStore.Proofs.ClearRows
import GridStore.Proofs.Scan.Ending
import GridStore.Proofs.Number.Between
import GridStore.Proofs.Region.Tall
import GridStore.Proofs.Append
import GridStore.Proofs.DataSource.Connect
import GridStore.Proofs.DataSource.Reuse
import GridStore.Proofs.Filter.Congruence
import GridStore.Proofs.Grid.Clear
import GridStore.Proofs.DeleteInTurn
import GridStore.Proofs.Grid.Below
import GridStore.Proofs.Region.InTurn
import GridStore.Proofs.InsertInTurn
import GridStore.Proofs.DataSource.Accepted
import GridStore.Proofs.Text.Words
import GridStore.Proofs.Address.AtOnce
import GridStore.Proofs.A1.Letters
import GridStore.Proofs.Cell.KeyOrder
