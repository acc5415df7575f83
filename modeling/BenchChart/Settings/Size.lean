import BenchChart.Journal

/-!
# The report on a size that is too small
-/

namespace BenchChart

namespace Settings

def sizeEvents (s : Settings) : List Event :=
  if s.isSupported then [] else [.sizeIgnored s.width s.height]

def checked (s : Settings) : List Event × Settings := (s.sizeEvents, s.supported)

@[simp] theorem sizeEvents_supported (s : Settings) : s.supported.sizeEvents = [] := by
  simp [sizeEvents, isSupported_supported]

end Settings

end BenchChart
