import BenchChart.Proofs.Progress.Log
import BenchChart.Proofs.Text.Blank

/-!
# Reading one log after another

Reading the lines of two logs one after the other is reading each of them, the second with the
numbers that its lines have after the first. Line feeds alone tell how far the numbers move: what
ends a line besides its line feed is blank, and blanks make no difference to the reading, so the
pieces between the line feeds can stand for the lines.
-/

namespace BenchChart

namespace Progress

/-- The same fault, `k` lines further down. -/
def Error.later (k : Nat) (e : Error) : Error := { e with line := e.line + k }

def lineSamples (n : Nat) (line : List Char) : Except Error (List Sample) :=
  if isProgressLine line then ((reading line).mapError (Error.mk n)).map ([·]) else .ok []

theorem lineSamples_add (n k : Nat) (line : List Char) :
    lineSamples (n + k) line = (lineSamples n line).mapError (Error.later k) := by
  unfold lineSamples
  split
  · cases reading line <;> rfl
  · rfl

/-- A line is read alike with and without the carriage return at its end. -/
theorem lineSamples_stripReturn (n : Nat) (line : List Char) :
    lineSamples n (Text.stripReturn line) = lineSamples n line := by
  have hprogress : isProgressLine (Text.stripReturn line) = isProgressLine line := by
    rw [isProgressLine, Text.trim_stripReturn, isProgressLine]
  rw [lineSamples, hprogress, reading, Text.trim_stripReturn]
  rfl

theorem readLines_cons (n : Nat) (line : List Char) (rest : List (List Char)) :
    (readLines n (line :: rest)).2 = do
      let samples ← lineSamples n line
      let more ← (readLines (n + 1) rest).2
      return samples ++ more := by
  cases hline : isProgressLine line with
  | false =>
      rw [readLines_cons_of_not_progress hline, lineSamples, hline]
      cases (readLines (n + 1) rest).2 <;> rfl
  | true =>
      rw [lineSamples, hline]
      cases hreading : reading line with
      | error fault =>
          rw [readLines_cons_of_error hline hreading]
          rfl
      | ok sample =>
          rw [readLines_cons_of_ok hline hreading]
          cases (readLines (n + 1) rest).2 <;> rfl

/-- Numbers that start `k` further down change nothing but the number of the fault. -/
theorem readLines_add (n k : Nat) (lines : List (List Char)) :
    (readLines (n + k) lines).2 = (readLines n lines).2.mapError (Error.later k) := by
  induction lines generalizing n with
  | nil => rfl
  | cons line rest ih =>
      rw [readLines_cons, readLines_cons, lineSamples_add, Nat.add_right_comm, ih]
      cases lineSamples n line with
      | error => rfl
      | ok => cases (readLines (n + 1) rest).2 <;> rfl

/-- The lines after the first ones are read if those give samples, and numbered on. -/
theorem readLines_append (n : Nat) (front back : List (List Char)) :
    (readLines n (front ++ back)).2 = do
      let samples ← (readLines n front).2
      let more ← (readLines (n + front.length) back).2
      return samples ++ more := by
  induction front generalizing n with
  | nil => cases h : (readLines n back).2 <;> simp [h, bind, Except.bind, pure, Except.pure]
  | cons line rest ih =>
      have hlength : n + (line :: rest).length = n + 1 + rest.length := by
        rw [List.length_cons]
        omega
      rw [List.cons_append, readLines_cons, readLines_cons, ih, hlength]
      simp only [bind_assoc, pure_bind, List.append_assoc]

/-- Reading the lines among segments is reading the segments. -/
theorem readLines_linesOfSegments (n : Nat) (segments : List (List Char)) :
    (readLines n (Text.linesOfSegments segments)).2 = (readLines n segments).2 := by
  fun_induction Text.linesOfSegments segments generalizing n with
  | case1 => rfl
  | case2 last hempty =>
      obtain rfl : last = [] := List.isEmpty_iff.1 hempty
      rfl
  | case3 last => rfl
  | case4 segment others _ ih =>
      rw [readLines_cons, readLines_cons, lineSamples_stripReturn, ih]

theorem parse_eq_map_segments (text : List Char) :
    parse text = (readLines 1 (Text.segments text)).2.map Series.ofSamples := by
  rw [parse_eq_map, Text.lines, readLines_linesOfSegments]

/-- A log that is put together from two with a line feed between them is read as the first and then
the second: the first fault is that of the first log, or else that of the second, further down by
the lines of the first; without a fault the samples of the second follow those of the first. -/
theorem parse_append_newline (first second : List Char) :
    parse (first ++ '\n' :: second) = do
      let series ← parse first
      let more ← (parse second).mapError (Error.later (first.count '\n' + 1))
      return Series.ofSamples (series.samples ++ more.samples) := by
  have hsegments : Text.segments (first ++ '\n' :: second) =
      Text.segments first ++ Text.segments second := Text.split_append '\n' first second
  have hlength : (Text.segments first).length = first.count '\n' + 1 := Text.length_split '\n' first
  rw [parse_eq_map_segments, parse_eq_map_segments first, parse_eq_map_segments second, hsegments,
    readLines_append, hlength, readLines_add]
  cases (readLines 1 (Text.segments first)).2 with
  | error => rfl
  | ok samples =>
      cases (readLines 1 (Text.segments second)).2 with
      | error => rfl
      | ok more =>
          simp only [Except.map, Except.mapError, bind, Except.bind, pure, Except.pure,
            Series.samples_ofSamples]

end Progress

end BenchChart
