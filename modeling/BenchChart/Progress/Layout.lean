import BenchChart.Text.Search

/-!
# The layout of a progress line

A progress line is laid out as
`... #42 @ 123.500 ms: miss_ratio = 0.25, load_admit = 0.9, cache_tp = 1024.0, core_tp = 512.0`.
Eight texts stand around seven fixed literals. `Layout.scan?` finds them in one pass: each literal
is taken where it first occurs after the one before it. `Layout.glue` puts a line together again.
-/

namespace BenchChart

namespace Progress

structure Layout where
  /-- What stands before the mark of the request count. -/
  lead : List Char
  requests : List Char
  time : List Char
  /-- What stands between the time and the first value. -/
  gap : List Char
  missRatio : List Char
  loadAdmit : List Char
  cacheRate : List Char
  coreRate : List Char
  deriving DecidableEq

namespace Layout

def requestsMark : List Char := "#".toList

def timeMark : List Char := " @ ".toList

def unitMark : List Char := " ms".toList

def missRatioMark : List Char := "miss_ratio = ".toList

def loadAdmitMark : List Char := ", load_admit = ".toList

def cacheRateMark : List Char := ", cache_tp = ".toList

def coreRateMark : List Char := ", core_tp = ".toList

/-- The texts of a line, if it has the literals in their order. -/
def scan? (line : List Char) : Option Layout := do
  let (lead, rest) ← Text.cut requestsMark line
  let (requests, rest) ← Text.cut timeMark rest
  let (time, rest) ← Text.cut unitMark rest
  let (gap, rest) ← Text.cut missRatioMark rest
  let (missRatio, rest) ← Text.cut loadAdmitMark rest
  let (loadAdmit, rest) ← Text.cut cacheRateMark rest
  let (cacheRate, coreRate) ← Text.cut coreRateMark rest
  return { lead, requests, time, gap, missRatio, loadAdmit, cacheRate, coreRate }

def glue (l : Layout) : List Char :=
  l.lead ++ requestsMark ++ l.requests ++ timeMark ++ l.time ++ unitMark ++ l.gap ++
    missRatioMark ++ l.missRatio ++ loadAdmitMark ++ l.loadAdmit ++ cacheRateMark ++
    l.cacheRate ++ coreRateMark ++ l.coreRate

theorem glue_of_scan? {line : List Char} {l : Layout} (h : scan? line = some l) :
    l.glue = line := by
  simp only [scan?, bind, Option.bind_eq_some_iff] at h
  obtain ⟨⟨_, _⟩, h1, ⟨_, _⟩, h2, ⟨_, _⟩, h3, ⟨_, _⟩, h4, ⟨_, _⟩, h5, ⟨_, _⟩, h6,
    ⟨_, _⟩, h7, he⟩ := h
  cases he
  dsimp only at h1 h2 h3 h4 h5 h6 h7
  rw [Text.eq_of_cut h1, Text.eq_of_cut h2, Text.eq_of_cut h3, Text.eq_of_cut h4,
    Text.eq_of_cut h5, Text.eq_of_cut h6, Text.eq_of_cut h7]
  simp [glue]

end Layout

end Progress

end BenchChart
