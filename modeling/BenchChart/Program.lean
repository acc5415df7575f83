import BenchChart.Batch
import BenchChart.CommandLine
import BenchChart.Config.Layers
import BenchChart.Journal.Filter
import BenchChart.Manual.Files

/-!
# The program

`Program.run` is the whole program as a function: from the environment, the arguments, what is on
the disk and who paints images to what is on the disk afterwards, what is printed and the exit code.
`Program.document` writes the manual.
-/

namespace BenchChart

namespace Program

structure Exit where
  disk : Disk
  code : Nat
  output : String
  /-- Warnings that are printed on the standard error output before any event. -/
  warnings : String
  events : List Event
  report : String

def levelOf : Nat → Level
  | 0 => .warn
  | 1 => .info
  | 2 => .debug
  | _ => .trace

def indented (first later message : String) : String :=
  first ++ ("\n" ++ later).intercalate
    ((Text.split '\n' message.toList).map String.ofList)

/-- The causes of a failure, one below the other. They are numbered if there are several. -/
def causeLines (causes : List String) : List String :=
  match causes with
  | [cause] => [indented "    " "    " cause]
  | _ =>
    causes.zipIdx.map fun (cause, n) =>
      let number := toString n
      let blanks := String.ofList (List.replicate (5 - number.length) ' ')
      indented (blanks ++ number ++ ": ") "       " cause

def failureText : List String → String
  | [] => ""
  | [message] => "Error: " ++ message ++ "\n"
  | message :: causes =>
    "Error: " ++ message ++ "\n\nCaused by:\n" ++ "\n".intercalate (causeLines causes) ++ "\n"

def versionText : String :=
  CommandLine.programName ++ " " ++ CommandLine.programVersion ++ "\n"

def usageText : String :=
  "Usage: " ++ CommandLine.programName ++ " [OPTIONS] [DIRECTORY]\n"

def helpText : String :=
  let entry (p : CommandLine.Parameter) : String :=
    let shown := if p.isPositional then ["[" ++ Manual.valueName p ++ "]"] else Manual.names p
    "  " ++ ", ".intercalate shown ++ "\n          " ++ p.meaning ++ "\n"
  CommandLine.purpose ++ "\n\n" ++ usageText ++ "\n" ++
    String.join (Manual.Page.parameters.map entry)

def refusalText : CommandLine.Refusal → String
  | .help => ""
  | .version => ""
  | .unknownArgument => "error: unexpected argument found\n"
  | .invalidValue => "error: invalid or missing value\n"
  | .argumentConflict => "error: an argument cannot be used multiple times\n"
  | .tooManyValues => "error: unexpected value for an argument\n"

def refuse (disk : Disk) : CommandLine.Refusal → Exit
  | .help => ⟨disk, 0, helpText, "", [], ""⟩
  | .version => ⟨disk, 0, versionText, "", [], ""⟩
  | refusal => ⟨disk, 2, "", "", [], refusalText refusal ++ "\n" ++ usageText⟩

def filterOf (env : Environment) (request : CommandLine.Request) : List String × Journal.Filter :=
  match env.eventFilter with
  | some spec => Journal.Filter.parse spec
  | none => ([], Journal.Filter.ofLevel (levelOf request.verbosity))

def directoryOf (config : Except Config.Error Config.Setting) (request : CommandLine.Request) :
    List Event × Path :=
  match request.directory with
  | some directory => ([], directory)
  | none => Config.inputDirectory config

def serve (env : Environment) (disk : Disk) (request : CommandLine.Request)
    (painter : Painter := .bundled) : Exit :=
  let (warnings, filter) := filterOf env request
  let config := Config.read disk env
  let (inputEvents, directory) := directoryOf config request
  -- The settings of charts are reported on even if only tables are asked for.
  let (chartEvents, settings) := Config.chartSettings config
  let (writerEvents, writer) := Artifact.Writer.ofFormat request.format settings painter
  let outcome := Batch.processDirectory writer disk directory
  let events := inputEvents ++ chartEvents ++ writerEvents ++ outcome.events
  let notes := String.join (warnings.map fun w => "warning: " ++ w ++ ", ignoring it\n")
  let (code, report) := match outcome.result with
    | .ok _ => (0, "")
    | .error failure => (1, failureText failure.chain)
  ⟨outcome.disk, code, "", notes, events.filter filter.shows, report⟩

def run (env : Environment) (disk : Disk) (arguments : List (List UInt8))
    (painter : Painter := .bundled) : Exit :=
  match CommandLine.parse arguments with
  | .error refusal => refuse disk refusal
  | .ok request => serve env disk request painter

def document (disk : Disk) (directory version : Option String) : Exit :=
  match Manual.write disk directory version with
  | (disk, some fault) => ⟨disk, 1, "", "", [], "Error: " ++ fault.details ++ "\n"⟩
  | (disk, none) => ⟨disk, 0, "cargo:rerun-if-changed=../cli_types/src/lib.rs\n", "", [], ""⟩

end Program

end BenchChart
