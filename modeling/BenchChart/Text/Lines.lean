import BenchChart.Text.Split

/-!
# Lines of a text

`segments` splits a text at its line feeds, so that a text with `k` of them has `k + 1` segments. A
line feed ends a line, and a carriage return right before it belongs to the line's end. What follows
the last line feed is a line too unless it is empty; a carriage return at its end is kept.
-/

namespace BenchChart

namespace Text

def segments (cs : List Char) : List (List Char) := split '\n' cs

def stripReturn (line : List Char) : List Char :=
  if line.getLast? = some '\r' then line.dropLast else line

def linesOfSegments : List (List Char) → List (List Char)
  | [] => []
  -- What no line feed ends keeps its carriage return.
  | [last] => if last.isEmpty then [] else [last]
  | segment :: others => stripReturn segment :: linesOfSegments others

def lines (cs : List Char) : List (List Char) := linesOfSegments (segments cs)

@[simp] theorem segments_nil : segments [] = [[]] := rfl

theorem segments_newline_cons (cs : List Char) : segments ('\n' :: cs) = [] :: segments cs :=
  split_sep_cons '\n' cs

theorem segments_ne_nil (cs : List Char) : segments cs ≠ [] := split_ne_nil '\n' cs

@[simp] theorem lines_nil : lines [] = [] := rfl

end Text

end BenchChart
