import BenchChart.Config.Error
import BenchChart.Decimal.Style
import BenchChart.Run
import BenchChart.Series
import BenchChart.Settings
import BenchChart.Text.Quoted
import BenchChart.Text.Split

/-!
# The journal

What the program reports while it works is a list of events. An event says what happened; its level,
the part of the program that it comes from and its wording follow from it.
-/

namespace BenchChart

inductive Level where
  | error
  | warn
  | info
  | debug
  | trace
  deriving DecidableEq, Repr

inductive Event where
  | sampleRead (line : Nat) (sample : Sample)
  | logRead (log : Path) (count : Nat)
  | entrySkipped (name : List UInt8)
  | noLogs (directory : Path)
  | artifactWritten (artifact : Path) (count : Nat) (run : Run)
  | sizeIgnored (width height : UInt32)
  | limitIgnored (limit : Range) (panel : String)
  | configUnreadable (cause : Config.Error)
  | settingsInvalid (cause : Config.Error)
  deriving DecidableEq

/-- How far down the levels a level is, from one. -/
def Level.depth : Level → Nat
  | .error => 1
  | .warn => 2
  | .info => 3
  | .debug => 4
  | .trace => 5

def Level.name : Level → String
  | .error => "ERROR"
  | .warn => "WARN"
  | .info => "INFO"
  | .debug => "DEBUG"
  | .trace => "TRACE"

namespace Event

def level : Event → Level
  | .sampleRead _ _ => .trace
  | .noLogs _ => .warn
  | .artifactWritten _ _ _ => .info
  | _ => .debug

def target : Event → String
  | .sampleRead _ _ => "bench_plot::parsers::progress_log"
  | .logRead _ _ => "bench_plot::parsers::progress_log"
  | .entrySkipped _ => "bench_plot::batch"
  | .noLogs _ => "bench_plot::batch"
  | .artifactWritten _ _ _ => "bench_plot::batch"
  | .limitIgnored _ _ => "bench_plot::chart"
  | .sizeIgnored _ _ => "bench_plot::config"
  | .configUnreadable _ => "bench_plot::config"
  | .settingsInvalid _ => "bench_plot::config"

/-- Numbers in the report of a sample: whole numbers keep a point and a zero, and numbers of at
least `10 ^ 16` or below `10 ^ -4` have an exponent. -/
def sampleStyle : Style := ⟨['.', '0'], false, some (-4, 16)⟩

def sampleText (s : Sample) : String :=
  "Sample \x7b time_ms: " ++ sampleStyle.format s.time ++
    ", num_reqs: " ++ toString s.requests.toNat ++
    ", miss_ratio: " ++ sampleStyle.format s.missRatio ++
    ", load_admit: " ++ sampleStyle.format s.loadAdmit ++
    ", cache_tp: " ++ sampleStyle.format s.cacheRate ++
    ", core_tp: " ++ sampleStyle.format s.coreRate ++ " \x7d"

def message : Event → String
  | .sampleRead line sample => "line " ++ toString line ++ ": " ++ sampleText sample
  | .logRead log count => "Parsed " ++ toString count ++ " samples from " ++ log.display
  | .entrySkipped name =>
    match Text.decode? name with
    | some cs => "Skipping " ++ String.ofList cs
    | none => "Skipping non UTF-8 file name " ++ String.ofList (Text.quote name)
  | .noLogs directory => "No benchmark logs found in " ++ directory.display
  | .artifactWritten artifact count run =>
    "Wrote " ++ artifact.display ++ " (" ++ toString count ++ " samples, " ++ run.describe ++ ")"
  | .sizeIgnored width height =>
    "Ignoring chart size " ++ toString width.toNat ++ "x" ++ toString height.toNat ++
      ", minimum is " ++ toString Settings.minWidth.toNat ++ "x" ++
      toString Settings.minHeight.toNat
  | .limitIgnored limit panel =>
    "Ignoring unusable y range [" ++ Style.plain.format limit.lo ++ ", " ++
      Style.plain.format limit.hi ++ "] for " ++ panel
  | .configUnreadable cause => "Could not read hierarchical config: " ++ cause.message
  | .settingsInvalid cause => "Ignoring invalid chart configuration: " ++ cause.message

/-- The lines in which the wording is printed: all but the first have an indent. -/
def messageLines (event : Event) : List String :=
  match (Text.split '\n' event.message.toList).map String.ofList with
  | [] => []
  | first :: later => first :: later.map ("    " ++ ·)

end Event

end BenchChart
