import BenchChart.CommandLine.Parameter
import BenchChart.Manual.Roff

/-!
# The manual

The same manual in two forms, a page for `man` and a Markdown document, both made from what the
command line knows about its parameters.
-/

namespace BenchChart

namespace Manual

open CommandLine

def names (p : Parameter) : List String :=
  (p.letter?.map fun c => "-" ++ c.toString).toList ++ (p.word?.map ("--" ++ ·)).toList

def valueName (p : Parameter) : String := String.ofList (p.id.toList.map Char.toUpper)

namespace Page

def synopsisItem (p : Parameter) : String :=
  if p.isPositional then "[" ++ Roff.italic (valueName p) ++ "]"
  else "[" ++ "|".intercalate ((names p).map Roff.bold) ++ "]" ++
    if p = .verbose then "..." else ""

def formatLines : List String :=
  [".br", "", ".br", Roff.italic "Possible values:", ".RS 14"] ++
    Artifact.Format.all.flatMap (fun format =>
      [".IP \\(bu 2",
        Roff.text (format.extension ++ ": " ++ Parameter.formatMeaning format)]) ++
    [".RE"]

def headLine (p : Parameter) : String :=
  if p.isPositional then "[" ++ Roff.italic (valueName p) ++ "]"
  else
    ", ".intercalate ((names p).map Roff.bold) ++
      if p = .format then
        " " ++ Roff.italic ("<" ++ valueName p ++ ">") ++
          " [default: " ++ ", ".intercalate p.defaults ++ "]"
      else ""

def parameterLines (p : Parameter) : List String :=
  [".TP", headLine p, Roff.text p.meaning] ++ if p = .format then formatLines else []

def parameters : List Parameter := Parameter.options ++ [.directory]

def text (version : String) : String :=
  Roff.page <|
    Roff.preamble ++
    [".TH " ++ programName ++ " 1  \"" ++ programName ++ " " ++ version ++ "\" ",
      Roff.heading "NAME",
      Roff.text (programName ++ " - " ++ purpose),
      Roff.heading "SYNOPSIS",
      Roff.bold programName ++ " " ++ " ".intercalate (parameters.map synopsisItem) ++ " ",
      Roff.heading "DESCRIPTION",
      Roff.text (purpose ++ "."),
      ".PP",
      Roff.text explanation,
      Roff.heading "OPTIONS"] ++
    parameters.flatMap parameterLines ++
    [Roff.heading "VERSION", Roff.text ("v" ++ version)]

end Page

namespace Markdown

def code (s : String) : String := "`" ++ s ++ "`"

def formatLines : List String :=
  ["", "  Default value: " ++ ", ".intercalate (Parameter.format.defaults.map code), "",
      "  Possible values:"] ++
    Artifact.Format.all.flatMap (fun format =>
      ["  - " ++ code format.extension ++ ":", "    " ++ Parameter.formatMeaning format]) ++
    [""]

def optionLines (p : Parameter) : List String :=
  let shown := if p = .format
    then (names p).dropLast ++ (names p).getLast?.toList.map (· ++ " <" ++ valueName p ++ ">")
    else names p
  ["* " ++ ", ".intercalate (shown.map code) ++ " — " ++ p.meaning] ++
    if p = .format then formatLines else []

def argumentLine (p : Parameter) : String :=
  "* " ++ code ("<" ++ valueName p ++ ">") ++ " — " ++ p.meaning

def footer : List String :=
  ["", "", "", "<hr/>", "", "<small><i>",
    "    This document was generated automatically by",
    "    <a href=\"https://crates.io/crates/clap-markdown\"><code>clap-markdown</code></a>.",
    "</i></small>"]

def text : String :=
  let (arguments, options) := Parameter.operative.partition Parameter.isPositional
  Roff.page <|
    ["# Command-Line Help for " ++ code programName, "",
      "This document contains the help content for the " ++ code programName ++
        " command-line program.", "",
      "**Command Overview:**", "",
      "* [" ++ code programName ++ "↴](#" ++ programName ++ ")", "",
      "## " ++ code programName, "",
      purpose ++ ".", "",
      explanation, "",
      "**Usage:** " ++ code (programName ++ " [OPTIONS] [DIRECTORY]"), "",
      "###### **Arguments:**", ""] ++
    arguments.map argumentLine ++
    ["", "###### **Options:**", ""] ++
    options.flatMap optionLines ++
    footer

end Markdown

end Manual

end BenchChart
