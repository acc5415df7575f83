import BenchChart.Proofs.Figure

/-!
# Limits of axes

Settings have a say in the ranges of three panels and in nothing else that a figure shows. A limit
decides the range of its own panel if it is usable; a limit that is not is as good as none, but for
the report on it.
-/

namespace BenchChart

namespace Settings

end Settings

namespace Panel

/-- The panel with the range that a limit leads to. -/
def limited (limit : Option Range) (panel : Panel) : Panel :=
  { panel with yRange := axis limit (panel.curves.flatMap Curve.values) }

variable {limit : Range}

end Panel

namespace Figure

end Figure

end BenchChart
