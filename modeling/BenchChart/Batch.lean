import BenchChart.Batch.Failure

/-!
# Batches

A batch turns every log of a directory into an artifact beside it, one after the other in the order
in which the directory lists them. The first log that fails ends the batch: artifacts written before
it are kept, and logs after it are not read. Every step says what it leaves of the disk and what it
reports, whether it succeeds or not.
-/

namespace BenchChart

namespace Batch

structure Outcome (α : Type) where
  disk : Disk
  events : List Event
  result : Except Failure α

/-- The name of a log, as text; `none` for any other entry of a directory. -/
def logName? (name : Name) : Option (List Char) := (Text.decode? name).filter Run.isLogName

/-- The logs of a directory, in its order, with a report on each entry that is none. -/
def discover (disk : Disk) (directory : Path) : List Event × Except Failure (List Path) :=
  match disk.list directory with
  | .error cause => ([], .error (.unlisted directory cause))
  | .ok names =>
    let (logs, others) := names.partition fun name => (logName? name).isSome
    (others.map .entrySkipped, .ok (logs.map directory.join))

def readLog (disk : Disk) (log : Path) : List Event × Except Failure Series :=
  match disk.readText log with
  | .error cause => ([], .error (.unread log cause))
  | .ok text =>
    match Progress.readLog text with
    | (events, .error cause) => (events, .error (.unparsed log cause))
    | (events, .ok series) => (events ++ [.logRead log series.size], .ok series)

def processLog (writer : Artifact.Writer) (disk : Disk) (log : Path) : Outcome Path :=
  match Run.ofPath? log with
  | none => ⟨disk, [], .error (.unnamed log)⟩
  | some run =>
    match readLog disk log with
    | (events, .error failure) => ⟨disk, events, .error failure⟩
    | (events, .ok series) =>
      let artifact := run.artifactPath log writer.format.extension
      -- What the chart leaves aside is reported whether or not it can be painted and saved.
      let reports := (writer.content run series artifact).1
      match writer.write disk series artifact run with
      | .error cause => ⟨disk, events ++ reports, .error (.unwritten artifact cause)⟩
      | .ok disk =>
        ⟨disk, events ++ reports ++ [.artifactWritten artifact series.size run], .ok artifact⟩

/-- Turns logs into their artifacts, up to the first one that fails. -/
def processLogs (writer : Artifact.Writer) (disk : Disk) : List Path → Outcome (List Path)
  | [] => ⟨disk, [], .ok []⟩
  | log :: rest =>
    let first := processLog writer disk log
    match first.result with
    | .error failure => ⟨first.disk, first.events, .error failure⟩
    | .ok artifact =>
      let others := processLogs writer first.disk rest
      ⟨others.disk, first.events ++ others.events, others.result.map (artifact :: ·)⟩

def processDirectory (writer : Artifact.Writer) (disk : Disk) (directory : Path) :
    Outcome (List Path) :=
  match discover disk directory with
  | (events, .error failure) => ⟨disk, events, .error failure⟩
  | (events, .ok []) => ⟨disk, events ++ [.noLogs directory], .ok []⟩
  | (events, .ok logs) =>
    let outcome := processLogs writer disk logs
    { outcome with events := events ++ outcome.events }

@[simp] theorem processLogs_nil (writer : Artifact.Writer) (disk : Disk) :
    processLogs writer disk [] = ⟨disk, [], .ok []⟩ := rfl

theorem processLogs_cons_of_error {writer : Artifact.Writer} {disk : Disk} {log : Path}
    {failure : Failure} (h : (processLog writer disk log).result = .error failure)
    (rest : List Path) :
    processLogs writer disk (log :: rest) =
      ⟨(processLog writer disk log).disk, (processLog writer disk log).events,
        .error failure⟩ := by
  simp only [processLogs]
  rw [h]

theorem processLogs_cons_of_ok {writer : Artifact.Writer} {disk : Disk} {log artifact : Path}
    (h : (processLog writer disk log).result = .ok artifact) (rest : List Path) :
    processLogs writer disk (log :: rest) =
      let others := processLogs writer (processLog writer disk log).disk rest
      ⟨others.disk, (processLog writer disk log).events ++ others.events,
        others.result.map (artifact :: ·)⟩ := by
  simp only [processLogs]
  rw [h]

end Batch

end BenchChart
