import BenchChart.Proofs.Text.Split
import BenchChart.Text.Lines

/-!
# Where the lines of a text are

`IsLine text number line` says where in a text a line stands, by the line feeds before it and by
what ends it. The lines of a text are the lines that stand in it, in the order of their numbers.
-/

namespace BenchChart

namespace Text

/-- What ends a line: a line feed, with the carriage return before it, or the end of the text. -/
inductive LineEnd (line after : List Char) : List Char → Prop where
  | lineFeed (bare : line.getLast? ≠ some '\r') : LineEnd line after ['\n']
  | returnAndLineFeed : LineEnd line after ['\r', '\n']
  | textEnd (last : after = []) (some : line ≠ []) : LineEnd line after []

/-- The text has the line with the given number, counted from one. -/
def IsLine (text : List Char) (number : Nat) (line : List Char) : Prop :=
  ∃ before ending after,
    text = before ++ line ++ ending ++ after ∧
      (before = [] ∨ before.getLast? = some '\n') ∧ before.count '\n' + 1 = number ∧
      '\n' ∉ line ∧ LineEnd line after ending

theorem linesOfSegments_append (front : List (List Char)) {back : List (List Char)}
    (h : back ≠ []) :
    linesOfSegments (front ++ back) = front.map stripReturn ++ linesOfSegments back := by
  induction front with
  | nil => rfl
  | cons segment front ih =>
      obtain ⟨next, others, hn⟩ : ∃ next others, front ++ back = next :: others :=
        List.exists_cons_of_ne_nil (List.append_ne_nil_of_right_ne_nil front h)
      rw [List.cons_append, List.map_cons, List.cons_append, ← ih, hn]
      rfl

theorem lines_append_newline (a b : List Char) :
    lines (a ++ '\n' :: b) = (segments a).map stripReturn ++ lines b := by
  rw [lines, segments, split_append, linesOfSegments_append _ (split_ne_nil '\n' b)]
  rfl

/-- A line that a line feed ends comes before the lines after it. -/
theorem lines_cons {line : List Char} (h : '\n' ∉ line) (rest : List Char) :
    lines (line ++ '\n' :: rest) = stripReturn line :: lines rest := by
  rw [lines_append_newline, segments, split_of_not_mem h]
  rfl

theorem lines_of_not_mem {text : List Char} (h : '\n' ∉ text) :
    lines text = if text.isEmpty then [] else [text] := by
  rw [lines, segments, split_of_not_mem h]
  rfl

theorem stripReturn_append_return (line : List Char) : stripReturn (line ++ ['\r']) = line := by
  simp [stripReturn]

theorem stripReturn_of_bare {line : List Char} (h : line.getLast? ≠ some '\r') :
    stripReturn line = line := by
  rw [stripReturn, if_neg h]

/-- The first line of a text, by what ends it. -/
theorem head_lines_of_lineEnd {line ending after : List Char} (h : '\n' ∉ line)
    (he : LineEnd line after ending) : (lines (line ++ ending ++ after))[0]? = some line := by
  cases he with
  | lineFeed bare =>
      rw [List.append_assoc, List.singleton_append, lines_cons h, stripReturn_of_bare bare]
      rfl
  | returnAndLineFeed =>
      have hsegment : '\n' ∉ line ++ ['\r'] := by simpa using h
      have htext : line ++ ['\r', '\n'] ++ after = line ++ ['\r'] ++ '\n' :: after := by simp
      rw [htext, lines_cons hsegment, stripReturn_append_return]
      rfl
  | textEnd last some =>
      rw [last, List.append_nil, List.append_nil, lines_of_not_mem h]
      simp [some]

theorem isLine_stripReturn {segment : List Char} (h : '\n' ∉ segment) (rest : List Char) :
    IsLine (segment ++ '\n' :: rest) 1 (stripReturn segment) := by
  by_cases hreturn : segment.getLast? = some '\r'
  · obtain ⟨line, rfl⟩ := List.getLast?_eq_some_iff.1 hreturn
    rw [stripReturn_append_return]
    exact ⟨[], ['\r', '\n'], rest, by simp, .inl rfl, rfl,
      fun hmem => h (List.mem_append_left _ hmem), .returnAndLineFeed⟩
  · rw [stripReturn_of_bare hreturn]
    exact ⟨[], ['\n'], rest, by simp, .inl rfl, rfl, h, .lineFeed hreturn⟩

/-- A line in the rest of a text is a line of the text. -/
theorem IsLine.after_newline {rest line : List Char} {n : Nat} (front : List Char)
    (h : IsLine rest n line) :
    IsLine (front ++ '\n' :: rest) (front.count '\n' + 1 + n) line := by
  obtain ⟨before, ending, after, rfl, hbefore, hcount, hline, hend⟩ := h
  refine ⟨front ++ '\n' :: before, ending, after, by simp, .inr ?_, ?_, hline, hend⟩
  · rcases hbefore with rfl | hlast
    · simp
    · simp [List.getLast?_append, List.getLast?_cons, hlast]
  · rw [List.count_append, List.count_cons_self]
    omega

theorem isLine_of_getElem?_lines {text line : List Char} {n : Nat}
    (h : (lines text)[n]? = some line) : IsLine text (n + 1) line := by
  -- A later line is a line of what comes after the first line feed.
  induction n generalizing text with
  | zero =>
      by_cases hmem : '\n' ∈ text
      · obtain ⟨segment, rest, rfl, hsegment⟩ := List.eq_append_cons_of_mem hmem
        rw [lines_cons hsegment, List.getElem?_cons_zero, Option.some.injEq] at h
        rw [← h]
        exact isLine_stripReturn hsegment rest
      · rw [lines_of_not_mem hmem] at h
        have hne : text ≠ [] := by
          rintro rfl
          simp at h
        obtain rfl : text = line := by simpa [hne] using h
        exact ⟨[], [], [], by simp, .inl rfl, rfl, hmem, .textEnd rfl hne⟩
  | succ n ih =>
      by_cases hmem : '\n' ∈ text
      · obtain ⟨segment, rest, rfl, hsegment⟩ := List.eq_append_cons_of_mem hmem
        rw [lines_cons hsegment, List.getElem?_cons_succ] at h
        have hline := (ih h).after_newline segment
        rwa [List.count_eq_zero_of_not_mem hsegment, Nat.zero_add, Nat.add_comm] at hline
      · rw [lines_of_not_mem hmem] at h
        split at h <;> simp at h

/-- The lines of a text are those that stand in it, by their numbers. -/
theorem getElem?_lines_eq_some_iff {text line : List Char} {n : Nat} :
    (lines text)[n]? = some line ↔ IsLine text (n + 1) line := by
  constructor
  · exact isLine_of_getElem?_lines
  · rintro ⟨before, ending, after, rfl, hbefore, hcount, hline, hend⟩
    have hfirst := head_lines_of_lineEnd hline hend
    rcases hbefore with rfl | hlast
    · obtain rfl : n = 0 := by simpa using hcount.symm
      exact hfirst
    · obtain ⟨front, rfl⟩ := List.getLast?_eq_some_iff.1 hlast
      have hlength : ((segments front).map stripReturn).length = n := by
        rw [List.length_map, segments, length_split]
        simpa using hcount
      have htext : front ++ ['\n'] ++ line ++ ending ++ after =
          front ++ '\n' :: (line ++ ending ++ after) := by simp
      rw [htext, lines_append_newline, List.getElem?_append_right (Nat.le_of_eq hlength), hlength,
        Nat.sub_self]
      exact hfirst

end Text

end BenchChart
