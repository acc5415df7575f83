import BenchChart.Artifact
import BenchChart.Progress.Log

/-!
# Failures of a batch
-/

namespace BenchChart

namespace Batch

inductive Failure where
  | unlisted (directory : Path) (cause : Disk.Fault)
  | unnamed (log : Path)
  | unread (log : Path) (cause : Disk.Fault)
  | unparsed (log : Path) (cause : Progress.Error)
  | unwritten (artifact : Path) (cause : Artifact.Fault)
  deriving DecidableEq

namespace Failure

/-- What failed, from the outermost step to the root cause. -/
def chain : Failure → List String
  | .unlisted directory cause =>
    ["Failed to list log directory " ++ directory.display, cause.message]
  | .unnamed log => ["Log file name " ++ log.display ++ " is not valid UTF-8"]
  | .unread log cause => ["Failed to read log file " ++ log.display, cause.message]
  | .unparsed log cause => ["Failed to parse log file " ++ log.display, cause.message]
  | .unwritten artifact cause => ("Failed to render " ++ artifact.display) :: cause.chain

def message (failure : Failure) : String := ": ".intercalate failure.chain

def progressError? : Failure → Option Progress.Error
  | .unparsed _ cause => some cause
  | _ => none

end Failure

end Batch

end BenchChart
