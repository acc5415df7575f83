import BenchChart.Path
import BenchChart.Text.Offset

/-!
# Run parameters and file names

The name of a log tells how the benchmark ran: `bench-int100-read50-hit80-LRU.txt` is a run of
intensity 100 with 50% reads, a hit ratio of 80% and mode `LRU`. The parameters are the very text
found between the marks, so that the names of the artifacts repeat it.

Decoding never fails. A mark that is missing counts as standing at position `-1`, which shifts what
is read, and a name that leaves out or mixes up its marks is decoded to odd pieces of itself.
-/

namespace BenchChart

structure Run where
  /-- Requests of 4 KiB submitted each second. -/
  intensity : String
  readPercentage : String
  hitRatio : String
  mode : String
  deriving DecidableEq

namespace Run

def logStart : List Char := "bench-".toList

def logEnd : List Char := ".txt".toList

def intensityMark : List Char := "-int".toList

def readMark : List Char := "-read".toList

def hitMark : List Char := "-hit".toList

def modeMark : List Char := "-".toList

def isLogName (name : List Char) : Bool :=
  Text.startsWith logStart name && Text.endsWith logEnd name

def ofFileName (name : List Char) : Run :=
  let intensity := Text.offsetOf intensityMark name
  let read := Text.offsetOf readMark name
  let hit := Text.offsetOf hitMark name
  let mode := Text.lastOffsetOf modeMark name
  let stop := Text.offsetOf logEnd name
  -- Each piece starts behind its mark. The position of a missing mark is moved on as well.
  { intensity := String.ofList (Text.slice name (intensity + 4) read)
    readPercentage := String.ofList (Text.slice name (read + 5) hit)
    hitRatio := String.ofList (Text.slice name (hit + 4) mode)
    mode := String.ofList (Text.slice name (mode + 1) stop) }

/-- The parameters that the last part of a path tells, if it names a file in UTF-8. -/
def ofPath? (log : Path) : Option Run :=
  (log.fileName?.bind Text.decode?).map ofFileName

def stem (run : Run) : String :=
  "bench-int" ++ run.intensity ++ "-read" ++ run.readPercentage ++ "-hit" ++ run.hitRatio ++
    "-" ++ run.mode

def artifactName (run : Run) (extension : String) : String := run.stem ++ "." ++ extension

def artifactPath (run : Run) (log : Path) (extension : String) : Path :=
  let name := Text.encode (run.artifactName extension).toList
  match log.parent? with
  | some directory => directory.join name
  | none => ⟨name⟩

def title (run : Run) : List String :=
  ["Intensity = " ++ run.intensity ++ " #4K-Reqs/s,",
    "read percentage = " ++ run.readPercentage ++ "%, hit ratio = " ++ run.hitRatio ++
      "%, mode = " ++ run.mode]

def describe (run : Run) : String :=
  "intensity=" ++ run.intensity ++ ", read_percentage=" ++ run.readPercentage ++
    ", hit_ratio=" ++ run.hitRatio ++ ", mode=" ++ run.mode

end Run

end BenchChart
