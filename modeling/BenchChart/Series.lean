import BenchChart.Binary64.Arithmetic

/-!
# Samples of a run

A `Sample` is what one progress line reports, and a `Series` holds the samples of a run in the order
of the log, one array for each quantity: a table and a chart read it column by column. `samples` is
the view of a series as one list; `push` adds a sample at its end.
-/

namespace BenchChart

structure Sample where
  /-- Milliseconds since the measured stage began. -/
  time : Binary64
  /-- Requests of 4 KiB submitted so far. -/
  requests : UInt64
  missRatio : Binary64
  /-- Fraction of the load that the cache device admits. -/
  loadAdmit : Binary64
  /-- Throughput of the cache device in MiB/s. -/
  cacheRate : Binary64
  /-- Throughput of the core device in MiB/s. -/
  coreRate : Binary64
  deriving DecidableEq, Inhabited

/-- The samples of a run, column by column. -/
structure Series where
  times : Array Binary64
  requests : Array UInt64
  missRatios : Array Binary64
  loadAdmits : Array Binary64
  cacheRates : Array Binary64
  coreRates : Array Binary64
  deriving DecidableEq, Inhabited

namespace Sample

/-- Whether two samples agree in every number. A sample with a NaN differs from itself. -/
def equals (a b : Sample) : Bool :=
  a.time.equals b.time && a.requests == b.requests && a.missRatio.equals b.missRatio &&
    a.loadAdmit.equals b.loadAdmit && a.cacheRate.equals b.cacheRate &&
    a.coreRate.equals b.coreRate

end Sample

namespace Series

def empty : Series := ⟨#[], #[], #[], #[], #[], #[]⟩

def push (series : Series) (sample : Sample) : Series where
  times := series.times.push sample.time
  requests := series.requests.push sample.requests
  missRatios := series.missRatios.push sample.missRatio
  loadAdmits := series.loadAdmits.push sample.loadAdmit
  cacheRates := series.cacheRates.push sample.cacheRate
  coreRates := series.coreRates.push sample.coreRate

def size (series : Series) : Nat := series.times.size

def isEmpty (series : Series) : Bool := series.times.isEmpty

def sample? (series : Series) (i : Nat) : Option Sample := do
  return {
    time := ← series.times[i]?
    requests := ← series.requests[i]?
    missRatio := ← series.missRatios[i]?
    loadAdmit := ← series.loadAdmits[i]?
    cacheRate := ← series.cacheRates[i]?
    coreRate := ← series.coreRates[i]? }

def samples (series : Series) : List Sample :=
  (List.range series.size).filterMap series.sample?

def ofSamples (samples : List Sample) : Series := samples.foldl push empty

def columnEquals : List Binary64 → List Binary64 → Bool
  | [], [] => true
  | a :: as, b :: bs => a.equals b && columnEquals as bs
  | _, _ => false

/-- Whether two series agree column by column. A series with a NaN differs from itself. -/
def equals (a b : Series) : Bool :=
  columnEquals a.times.toList b.times.toList &&
    a.requests == b.requests &&
    columnEquals a.missRatios.toList b.missRatios.toList &&
    columnEquals a.loadAdmits.toList b.loadAdmits.toList &&
    columnEquals a.cacheRates.toList b.cacheRates.toList &&
    columnEquals a.coreRates.toList b.coreRates.toList

@[simp] theorem size_empty : empty.size = 0 := rfl

@[simp] theorem samples_empty : empty.samples = [] := rfl

@[simp] theorem size_push (series : Series) (sample : Sample) :
    (series.push sample).size = series.size + 1 := by
  simp [size, push]

@[simp] theorem ofSamples_nil : ofSamples [] = empty := rfl

theorem ofSamples_append_singleton (samples : List Sample) (sample : Sample) :
    ofSamples (samples ++ [sample]) = (ofSamples samples).push sample := by
  simp [ofSamples]

end Series

end BenchChart
