import BenchChart.Pattern.Fault
import BenchChart.Text.Lines

/-!
# The report on a pattern

A report shows the pattern with carets below what is wrong, and then says what is wrong. A pattern
with several lines is shown between dividers with numbers before its lines; a span that goes over
several lines has no carets and is described below the pattern.
-/

namespace BenchChart

namespace Pattern

def copies (n : Nat) (c : Char) : String := String.ofList (List.replicate n c)

namespace Span

def isOneLine (s : Span) : Bool := s.first.line == s.last.line

def le (s t : Span) : Bool :=
  s.first.offset < t.first.offset ||
    (s.first.offset == t.first.offset && s.last.offset ≤ t.last.offset)

def extent (s : Span) : String :=
  "on line " ++ toString s.first.line ++ " (column " ++ toString s.first.column ++
    ") through line " ++ toString s.last.line ++ " (column " ++ toString (s.last.column - 1) ++ ")"

end Span

/-- Carets below spans of one line, in order; `column` characters of the line are below already. -/
def carets (column : Nat) : List Span → String
  | [] => ""
  | s :: rest =>
    let blanks := s.first.column - 1 - column
    let marks := max 1 (s.last.column - s.first.column)
    copies blanks ' ' ++ copies marks '^' ++ carets (column + blanks + marks) rest

namespace Error

def spans (e : Error) : List Span :=
  match e.other with
  | none => [e.span]
  | some s => if s.le e.span then [s, e.span] else [e.span, s]

/-- What stands before a line, and how many blanks stand before the carets below it. -/
def lineMark (count line : Nat) : String × Nat :=
  if count ≤ 1 then ("    ", 4)
  else
    let width := (toString count).length
    let number := toString line
    (copies (width - number.length) ' ' ++ number ++ ": ", width + 2)

def shownLine (e : Error) (count line : Nat) (text : List Char) : List String :=
  let (mark, indent) := lineMark count line
  let below := e.spans.filter fun s => s.isOneLine && s.first.line == line
  (mark ++ String.ofList text) ::
    if below.isEmpty then [] else [copies indent ' ' ++ carets 0 below]

def reportLines (e : Error) (pattern : List Char) : List String :=
  let lines := Text.lines pattern
  let count := lines.length + if pattern.getLast? = some '\n' then 1 else 0
  let shown := (lines.zipIdx 1).flatMap fun (text, line) => e.shownLine count line text
  let body :=
    if pattern.contains '\n' then
      copies 79 '~' :: shown ++ copies 79 '~' ::
        (e.spans.filter (!·.isOneLine)).map Span.extent
    else shown
  "regex parse error:" :: body ++ ["error: " ++ e.fault.message]

def report (e : Error) (pattern : List Char) : String :=
  "\n".intercalate (e.reportLines pattern)

end Error

end Pattern

end BenchChart
