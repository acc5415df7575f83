import BenchChart.Journal
import BenchChart.Progress.Line
import BenchChart.Text.Lines

/-!
# Progress logs

A log gives one sample for each of its progress lines, in order; other lines are passed over. The
first progress line that gives no sample ends the reading, with its fault and its number among all
lines. Each sample is reported when it is read, also those before a fault.
-/

namespace BenchChart

namespace Progress

/-- A fault and the number of its line, counted from one. -/
structure Error where
  line : Nat
  fault : Fault
  deriving DecidableEq, Repr

def Error.message (e : Error) : String := "line " ++ toString e.line ++ ": " ++ e.fault.message

/-- The samples of lines of which the first has the number `n`, with the report of each. -/
def readLines (n : Nat) : List (List Char) → List Event × Except Error (List Sample)
  | [] => ([], .ok [])
  | line :: rest =>
    if isProgressLine line then
      match readLine (Text.trim line) with
      | .error fault => ([], .error ⟨n, fault⟩)
      | .ok sample =>
        let (events, result) := readLines (n + 1) rest
        (.sampleRead n sample :: events, result.map (sample :: ·))
    else readLines (n + 1) rest

def readLog (text : List Char) : List Event × Except Error Series :=
  let (events, result) := readLines 1 (Text.lines text)
  (events, result.map Series.ofSamples)

def parse (text : List Char) : Except Error Series := (readLog text).2

@[simp] theorem readLines_nil (n : Nat) : readLines n [] = ([], .ok []) := rfl

theorem readLines_cons_of_not_progress {line : List Char} (h : isProgressLine line = false)
    (n : Nat) (rest : List (List Char)) :
    readLines n (line :: rest) = readLines (n + 1) rest := by
  simp [readLines, h]

theorem readLines_cons_of_error {line : List Char} {fault : Fault}
    (h : isProgressLine line = true) (he : readLine (Text.trim line) = .error fault)
    (n : Nat) (rest : List (List Char)) :
    readLines n (line :: rest) = ([], .error ⟨n, fault⟩) := by
  simp [readLines, h, he]

@[simp] theorem parse_nil : parse [] = .ok Series.empty := rfl

end Progress

end BenchChart
