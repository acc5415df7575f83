import BenchChart.Series

/-!
# Throughputs

The benchmark reports throughputs in KiB/s, and a series keeps them in MiB/s.
-/

namespace BenchChart

namespace Rate

/-- A throughput in KiB/s, in MiB/s. -/
def kibToMib (rate : Binary64) : Binary64 := rate / Binary64.ofNat 1024

/-- The sums of the throughputs at equal positions, as far as both lists go. -/
def total (cache core : List Binary64) : List Binary64 := List.zipWith (· + ·) cache core

end Rate

def Series.totalRates (series : Series) : List Binary64 :=
  Rate.total series.cacheRates.toList series.coreRates.toList

def Sample.totalRate (sample : Sample) : Binary64 := sample.cacheRate + sample.coreRate

end BenchChart
