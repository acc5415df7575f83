import BenchChart.Pattern.Meaning
import BenchChart.Pattern.Reader
import BenchChart.Pattern.Report

/-!
# Patterns

A pattern is read into a tree, whose meaning is a matcher. What is wrong with a pattern is told by a
report on it.
-/

namespace BenchChart

namespace Pattern

def matcher (pattern : List Char) : Except Error Matcher := do
  let node ← Node.ofPattern pattern
  let (m, _) ← node.meaning Options.initial
  return m

def tooLarge : String :=
  "Compiled regex exceeds size limit of " ++ toString maxRoom ++ " bytes."

def compile (pattern : List Char) : Except String Matcher :=
  match matcher pattern with
  | .error e => .error (e.report pattern)
  | .ok m => if maxRoom < Matcher.room m then .error tooLarge else .ok m

end Pattern

end BenchChart
