import BenchChart.Binary64.Word
import BenchChart.Drawing
import BenchChart.Main
import BenchChart.Proofs.Batch.Confined
import BenchChart.Proofs.Batch.Discovery
import BenchChart.Proofs.Batch.Distinct
import BenchChart.Proofs.Batch.Length
import BenchChart.Proofs.Batch.Table
import BenchChart.Proofs.Binary64.Arithmetic
import BenchChart.Proofs.Binary64.Rounding
import BenchChart.Proofs.Config.Layers
import BenchChart.Proofs.Config.Nearest
import BenchChart.Proofs.Decimal.Canonical
import BenchChart.Proofs.Decimal.Numeral
import BenchChart.Proofs.Decimal.ReadBack
import BenchChart.Proofs.Decimal.Written
import BenchChart.Proofs.Disk
import BenchChart.Proofs.Drawing
import BenchChart.Proofs.Drawing.Areas
import BenchChart.Proofs.Drawing.Columns
import BenchChart.Proofs.Drawing.Coordinate
import BenchChart.Proofs.Drawing.Layout
import BenchChart.Proofs.Drawing.Parts
import BenchChart.Proofs.Figure
import BenchChart.Proofs.Figure.Limits
import BenchChart.Proofs.Figure.Rows
import BenchChart.Proofs.Figure.Samples
import BenchChart.Proofs.Progress.Append
import BenchChart.Proofs.Progress.Log
import BenchChart.Proofs.Progress.Outcome
import BenchChart.Proofs.Progress.Printed
import BenchChart.Proofs.Progress.Respaced
import BenchChart.Proofs.Progress.Untrimmed
import BenchChart.Proofs.Range
import BenchChart.Proofs.Range.Bounds
import BenchChart.Proofs.Range.Padded
import BenchChart.Proofs.Range.Reordered
import BenchChart.Proofs.Run
import BenchChart.Proofs.Run.ByIndex
import BenchChart.Proofs.Run.Length
import BenchChart.Proofs.Run.RoundTrip
import BenchChart.Proofs.Series
import BenchChart.Proofs.Series.Built
import BenchChart.Proofs.Table
