import BenchChart.Path

/-!
# The environment of the program
-/

namespace BenchChart

structure Environment where
  home : Option Path
  /-- The directory of the user's configuration, in place of the one in the home directory. -/
  configHome : Option String
  /-- Which events to print, in place of what the arguments ask for. -/
  eventFilter : Option String
  deriving DecidableEq

end BenchChart
