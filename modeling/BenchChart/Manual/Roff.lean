/-!
# Roff

Manual pages are lines of text and of requests, which start with a point. In a text a hyphen, a
backslash and an apostrophe have a meaning of their own and are written as escapes, and a point at
the start of a line follows a mark of no width.
-/

namespace BenchChart

namespace Roff

def escapeChar (c : Char) : List Char :=
  if c = '-' then ['\\', '-']
  else if c = '\\' then ['\\', '\\']
  else if c = '\'' then "\\*(Aq".toList
  else [c]

/-- Characters with a mark of no width before each point that starts a line, so that the line is
text and no request. The first line is left as it is: what stands before it is not known. -/
def guardLines : List Char → List Char
  | '\n' :: '.' :: cs => "\n\\&.".toList ++ guardLines cs
  | c :: cs => c :: guardLines cs
  | [] => []

def text (s : String) : String := String.ofList (guardLines (s.toList.flatMap escapeChar))

def bold (s : String) : String := "\\fB" ++ text s ++ "\\fR"

def italic (s : String) : String := "\\fI" ++ text s ++ "\\fR"

def heading (title : String) : String := ".SH " ++ title

/-- What starts the page: apostrophes become plain ones where that is possible. -/
def preamble : List String := [".ie \\n(.g .ds Aq \\(aq", ".el .ds Aq '"]

def page (lines : List String) : String := String.join (lines.map (· ++ "\n"))

end Roff

end BenchChart
