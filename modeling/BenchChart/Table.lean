import BenchChart.Decimal.Style
import BenchChart.Rate

/-!
# The table of a run

A table has a line with the names of its columns and one line for each sample, in the order of the
log. Cells are separated by tabs, and every line ends with a line feed. Numbers have all the digits
that are needed to read them back, never an exponent, and always a point.
-/

namespace BenchChart

namespace Table

def columns : List String :=
  ["time_ms", "num_reqs", "miss_ratio", "load_admit", "cache_tp", "core_tp", "total_tp"]

/-- How numbers are written: whole numbers exactly, with one zero after the point. -/
def style : Style := ⟨['.', '0'], true, none⟩

/-- The cells of a table, which is put together from the columns of a series and ends with the
shortest of them. The last column is the throughput of both devices together. -/
def columnCells (series : Series) : List (List (List Char)) :=
  let reals (column : Array Binary64) := column.toList.map style.write
  let counts := series.requests.toList.map fun n => Decimal.digitChars n.toNat
  .zipWith .cons (reals series.times) <| .zipWith .cons counts <|
    .zipWith .cons (reals series.missRatios) <| .zipWith .cons (reals series.loadAdmits) <|
    .zipWith .cons (reals series.cacheRates) <| .zipWith .cons (reals series.coreRates) <|
    series.totalRates.map fun total => [style.write total]

def line (cells : List (List Char)) : List Char := ['\t'].intercalate cells ++ ['\n']

def ofSeries (series : Series) : List Char :=
  line (columns.map String.toList) ++ (columnCells series).flatMap line

end Table

end BenchChart
