import BenchChart.Range

/-!
# Chart settings

The size of a chart and the ranges of its axes that are fixed rather than taken from the data. A
size below the minimum leaves no room for the plots, so both sides of it give way to the default.
-/

namespace BenchChart

structure Settings where
  width : UInt32
  height : UInt32
  missRatioLimit : Option Range
  loadAdmitLimit : Option Range
  /-- The fixed range of the throughputs, in MiB/s. -/
  rateLimit : Option Range
  deriving DecidableEq

namespace Settings

def defaultWidth : UInt32 := 1280

def defaultHeight : UInt32 := 960

def minWidth : UInt32 := 640

def minHeight : UInt32 := 480

def default : Settings := ⟨defaultWidth, defaultHeight, none, none, none⟩

instance : Inhabited Settings := ⟨default⟩

def isSupported (s : Settings) : Bool := decide (minWidth ≤ s.width ∧ minHeight ≤ s.height)

/-- The settings with the default size in place of one that is too small. -/
def supported (s : Settings) : Settings :=
  if s.isSupported then s else { s with width := defaultWidth, height := defaultHeight }

@[simp] theorem isSupported_default : default.isSupported = true := by decide

theorem isSupported_supported (s : Settings) : s.supported.isSupported = true := by
  unfold supported
  split
  · assumption
  · show decide (minWidth ≤ defaultWidth ∧ minHeight ≤ defaultHeight) = true
    decide

theorem supported_of_isSupported {s : Settings} (h : s.isSupported = true) : s.supported = s := by
  simp [supported, h]

end Settings

end BenchChart
