import BenchChart.Artifact

/-!
# What the program can be told

The parameters of the command line, with their names and their help. The manual is made from the
same data as the reading of arguments.
-/

namespace BenchChart

namespace CommandLine

def programName : String := "bench-plot"

def programVersion : String := "0.1.0"

def purpose : String := "Plot every `bench-*.txt` progress log in a directory"

def explanation : String :=
  "Each log is turned into one artifact named after the run parameters encoded in the log's " ++
    "file name, e.g. `bench-int100-read50-hit80-LRU.txt` becomes `bench-int100-read50-hit80-LRU.png` " ++
    "in the same directory. Processing stops at the first log containing a malformed progress line."

inductive Parameter where
  /-- How much to report; each time it is given counts. -/
  | verbose
  | format
  | directory
  | help
  | version
  deriving DecidableEq, Repr

namespace Parameter

def operative : List Parameter := [.verbose, .format, .directory]

def options : List Parameter := [.verbose, .format, .help, .version]

def id : Parameter → String
  | .verbose => "verbose"
  | .format => "format"
  | .directory => "directory"
  | .help => "help"
  | .version => "version"

def letter? : Parameter → Option Char
  | .verbose => some 'v'
  | .format => some 'f'
  | .directory => none
  | .help => some 'h'
  | .version => some 'V'

def word? : Parameter → Option String
  | .directory => none
  | p => some p.id

def isPositional (p : Parameter) : Bool := p.word?.isNone

def defaults : Parameter → List String
  | .format => [Artifact.Format.default.extension]
  | _ => []

def meaning : Parameter → String
  | .verbose =>
    "Increase verbosity level (can be specified multiple times.) The first level sets level " ++
      "\"info\", second sets level \"debug\", and third sets level \"trace\" for the logger"
  | .format => "Output format of the generated artifacts"
  | .directory =>
    "Directory holding the benchmark logs. Falls back to `input.directory` from the " ++
      "configuration, then to `result`"
  | .help => "Print help (see a summary with '-h')"
  | .version => "Print version"

def formatMeaning : Artifact.Format → String
  | .png => "Four-panel time-series chart"
  | .csv => "Tab-separated dump of the parsed samples"

def ofLetter? (b : UInt8) : Option Parameter :=
  options.find? fun p => p.letter?.map Char.toUInt8 == some b

def ofWord? (bytes : List UInt8) : Option Parameter :=
  options.find? fun p => p.word?.map (fun word => Text.encode word.toList) == some bytes

end Parameter

end CommandLine

end BenchChart
