import BenchChart.Journal
import BenchChart.Rate

/-!
# The figure of a run

A figure stacks four panels over one time axis. A panel shows one or more curves, which share the
times of the samples, and has a range of its own: a usable limit from the settings if there is one,
else the padded bounds of its values. `Figure.ofRun` says what is shown and
`Figure.rowBreakpoints` how a height is shared among the panels; nothing here knows how to draw.
-/

namespace BenchChart

inductive Color where
  | yellow
  | black
  | red
  | green
  | cyan
  | blue
  deriving DecidableEq, Repr

/-- A time in milliseconds and a value. -/
structure Point where
  x : Binary64
  y : Binary64
  deriving DecidableEq

structure Curve where
  label : String
  color : Color
  points : List Point
  deriving DecidableEq

structure Panel where
  title : String
  /-- The height, relative to that of the other panels. -/
  rows : UInt32
  curves : List Curve
  yRange : Range
  xLabel : Option String
  yLabel : Option String
  legend : Bool
  deriving DecidableEq

structure Figure where
  title : List String
  /-- The times that all panels span, in milliseconds. -/
  xRange : Range
  panels : List Panel
  deriving DecidableEq

def Curve.ofValues (label : String) (color : Color) (times values : List Binary64) : Curve :=
  ⟨label, color, List.zipWith Point.mk times values⟩

def Curve.values (curve : Curve) : List Binary64 := curve.points.map Point.y

namespace Panel

/-- The range of an axis: its limit if that is usable, else one that fits the values. -/
def axis (limit : Option Range) (values : List Binary64) : Range :=
  (limit.filter Range.isUsable).getD (Range.padded (Range.finiteBounds values))

def limitEvents (title : String) (limit : Option Range) : List Event :=
  ((limit.filter fun r => !r.isUsable).map fun r => Event.limitIgnored r title).toList

def plain (title : String) (curves : List Curve) (limit : Option Range) : Panel where
  title := title
  rows := 1
  curves := curves
  yRange := axis limit (curves.flatMap Curve.values)
  xLabel := none
  yLabel := none
  legend := false

def requests (series : Series) : Panel :=
  let counts := series.requests.toList.map fun n => Binary64.ofNat n.toNat
  plain "#4K-Reqs" [Curve.ofValues "#4K-Reqs" .yellow series.times.toList counts] none

def missRatioTitle : String := "miss_ratio"

def missRatio (series : Series) (limit : Option Range) : Panel :=
  plain missRatioTitle
    [Curve.ofValues "miss_ratio" .black series.times.toList series.missRatios.toList] limit

def loadAdmitTitle : String := "load_admit"

def loadAdmit (series : Series) (limit : Option Range) : Panel :=
  plain loadAdmitTitle
    [Curve.ofValues "load_admit" .red series.times.toList series.loadAdmits.toList] limit

def throughputTitle : String := "Throughput"

/-- The throughput of the devices, together and one by one. It has two rows, the labels of the axes
and a legend. -/
def throughput (series : Series) (limit : Option Range) : Panel :=
  let times := series.times.toList
  { plain throughputTitle
      [Curve.ofValues "Total" .green times series.totalRates,
        Curve.ofValues "Cache" .cyan times series.cacheRates.toList,
        Curve.ofValues "Core" .blue times series.coreRates.toList] limit with
    rows := 2
    xLabel := some "Time (ms)"
    yLabel := some "MiB/s"
    legend := true }

/-- The rows from the first panel to each of the panels, after `above` rows. -/
def runningRows (above : UInt32) : List Panel → List UInt32
  | [] => []
  | panel :: rest => (above + panel.rows) :: runningRows (above + panel.rows) rest

theorem axis_of_isUsable {r : Range} (h : r.isUsable = true) (values : List Binary64) :
    axis (some r) values = r := by
  simp [axis, Option.filter_some, h]

theorem axis_of_not_isUsable {r : Range} (h : r.isUsable = false) (values : List Binary64) :
    axis (some r) values = axis none values := by
  simp [axis, Option.filter_some, h]

@[simp] theorem limitEvents_none (title : String) : limitEvents title none = [] := rfl

@[simp] theorem runningRows_nil (above : UInt32) : runningRows above [] = [] := rfl

theorem length_runningRows (above : UInt32) (panels : List Panel) :
    (runningRows above panels).length = panels.length := by
  induction panels generalizing above with
  | nil => rfl
  | cons panel rest ih => simp [runningRows, ih]

end Panel

namespace Figure

def ofRun (run : Run) (series : Series) (settings : Settings) : Figure where
  title := run.title
  xRange := Range.padded (Range.finiteBounds series.times.toList)
  panels :=
    [Panel.requests series,
      Panel.missRatio series settings.missRatioLimit,
      Panel.loadAdmit series settings.loadAdmitLimit,
      Panel.throughput series settings.rateLimit]

def events (settings : Settings) : List Event :=
  Panel.limitEvents Panel.missRatioTitle settings.missRatioLimit ++
    Panel.limitEvents Panel.loadAdmitTitle settings.loadAdmitLimit ++
    Panel.limitEvents Panel.throughputTitle settings.rateLimit

def checked (run : Run) (series : Series) (settings : Settings) : List Event × Figure :=
  (events settings, ofRun run series settings)

def rows (figure : Figure) : UInt32 := (figure.panels.map Panel.rows).foldl (· + ·) 0

/-- Where a row starts if `rows` of them share a height. -/
def rowStart (height rows row : UInt32) : UInt32 :=
  (height.toUInt64 * row.toUInt64 / (max rows 1).toUInt64).toUInt32

def rowBreakpoints (figure : Figure) (height : UInt32) : List UInt32 :=
  ((Panel.runningRows 0 figure.panels).dropLast).map (rowStart height figure.rows)

theorem length_rowBreakpoints (figure : Figure) (height : UInt32) :
    (figure.rowBreakpoints height).length = figure.panels.length - 1 := by
  simp [rowBreakpoints, Panel.length_runningRows]

@[simp] theorem rows_ofRun (run : Run) (series : Series) (settings : Settings) :
    (ofRun run series settings).rows = 5 := rfl

@[simp] theorem events_default : events Settings.default = [] := rfl

end Figure

end BenchChart
