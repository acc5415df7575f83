import BenchChart.Batch
import BenchChart.Proofs.Disk
import BenchChart.Proofs.Progress.Log
import BenchChart.Proofs.Run

/-!
# The logs of a batch

What a batch finds in a directory are paths of names in it, and the artifacts of all of them go to
one parent, which leads to the directory. The equations for `processLog` say how far each log comes.
-/

namespace BenchChart

namespace Batch

/-- The path is that of a log in the directory. -/
def IsLog (directory log : Path) : Prop :=
  ∃ bytes name, Path.IsName bytes ∧ Text.decode? bytes = some name ∧
    Run.isLogName name = true ∧ log = directory.join bytes

def reportsArtifact : Event → Bool
  | .artifactWritten _ _ _ => true
  | _ => false

/-- The artifacts of a directory's logs go beside the logs. -/
theorem exists_parent_of_isLog (directory : Path) (format : Artifact.Format) :
    ∃ parent : Path, ∀ log, IsLog directory log → ∃ run, Run.ofPath? log = some run ∧
      run.artifactPath log format.extension = parent.join (run.artifactFile format) ∧
      Path.IsName (run.artifactFile format) ∧
      Path.IsChild (parent.join (run.artifactFile format)) directory
        (run.artifactFile format) := by
  obtain ⟨parent, hparent, hchild⟩ := Path.exists_parent?_join directory
  refine ⟨parent, ?_⟩
  rintro log ⟨bytes, name, hbytes, hname, _, rfl⟩
  have hfile := Run.isName_artifactFile hbytes.noSlash hname format
  refine ⟨Run.ofFileName name, ?_, ?_, hfile, hchild _ hfile.noSlash⟩
  · rw [Run.ofPath?, Path.fileName?_join directory hbytes, Option.bind_some, hname]
    rfl
  · rw [Run.artifactPath, hparent bytes hbytes]
    rfl

theorem IsLog.exists_run {directory log : Path} (h : IsLog directory log) :
    ∃ run, Run.ofPath? log = some run := by
  obtain ⟨_, hparent⟩ := exists_parent_of_isLog directory .csv
  obtain ⟨run, hrun, _⟩ := hparent log h
  exact ⟨run, hrun⟩

theorem filter_reportsArtifact_readLog (text : List Char) :
    (Progress.readLog text).1.filter reportsArtifact = [] := by
  rw [List.filter_eq_nil_iff]
  intro event hevent
  obtain ⟨n, sample, rfl⟩ := Progress.exists_sampleRead_of_mem_readLog hevent
  simp [reportsArtifact]

theorem filter_reportsArtifact_skipped (names : List Name) :
    (names.map Event.entrySkipped).filter reportsArtifact = [] := by
  rw [List.filter_eq_nil_iff]
  intro event hevent
  obtain ⟨name, _, rfl⟩ := List.mem_map.1 hevent
  simp [reportsArtifact]

/-- A chart reports only the limits that it ignores. -/
theorem filter_reportsArtifact_content (writer : Artifact.Writer) (run : Run) (series : Series)
    (artifact : Path) : (writer.content run series artifact).1.filter reportsArtifact = [] := by
  have hlimit : ∀ title limit, (Panel.limitEvents title limit).filter reportsArtifact = [] := by
    intro title limit
    rw [Panel.limitEvents]
    cases limit.filter fun r => !r.isUsable <;> rfl
  cases writer with
  | csv => rfl
  | png settings _ painter =>
      rw [Artifact.Writer.content]
      split
      · show (Figure.events settings).filter reportsArtifact = []
        simp only [Figure.events, List.filter_append, hlimit, List.append_nil]
      · rfl

theorem isLog_of_discover {disk : Disk} {directory : Path} (hnames : disk.WellNamed)
    {events : List Event} {logs : List Path}
    (h : discover disk directory = (events, .ok logs)) :
    (∃ location, disk.LeadsToDirectory directory location) ∧
      (∀ log ∈ logs, IsLog directory log) ∧ events.filter reportsArtifact = [] := by
  rw [discover] at h
  split at h
  · cases h
  · next names hlist =>
      obtain ⟨location, hleads, rfl⟩ := Disk.list_eq_ok_iff.1 hlist
      rw [List.partition_eq_filter_filter] at h
      cases h
      refine ⟨⟨location, hleads⟩, ?_, filter_reportsArtifact_skipped _⟩
      intro log hlog
      obtain ⟨bytes, hbytes, rfl⟩ := List.mem_map.1 hlog
      obtain ⟨hmem, hname⟩ := List.mem_filter.1 hbytes
      obtain ⟨name, hname⟩ := Option.isSome_iff_exists.1 hname
      obtain ⟨hdecode, hlogName⟩ := Option.filter_eq_some_iff.1 hname
      have hslash := hnames.noSlash_of_mem_names hmem
      exact ⟨bytes, name, Run.isName_of_isLogName hslash hdecode hlogName, hdecode, hlogName, rfl⟩

section ProcessLog

variable {writer : Artifact.Writer} {disk : Disk} {log : Path} {run : Run} {text : List Char}
  {series : Series}

theorem processLog_of_unread (hrun : Run.ofPath? log = some run) {cause : Disk.Fault}
    (hread : disk.readText log = .error cause) :
    processLog writer disk log = ⟨disk, [], .error (.unread log cause)⟩ := by
  simp only [processLog, hrun, readLog, hread]

theorem readLog_of_text (hread : disk.readText log = .ok text) :
    readLog disk log =
      match Progress.parse text with
      | .error cause => ((Progress.readLog text).1, .error (.unparsed log cause))
      | .ok series => ((Progress.readLog text).1 ++ [.logRead log series.size], .ok series) := by
  simp only [readLog, hread, Progress.parse]
  rcases Progress.readLog text with ⟨events, result⟩
  cases result <;> rfl

theorem processLog_of_unparsed (hrun : Run.ofPath? log = some run)
    (hread : disk.readText log = .ok text) {cause : Progress.Error}
    (hparse : Progress.parse text = .error cause) :
    processLog writer disk log =
      ⟨disk, (Progress.readLog text).1, .error (.unparsed log cause)⟩ := by
  simp only [processLog, hrun, readLog_of_text hread, hparse]

theorem processLog_of_unwritten (hrun : Run.ofPath? log = some run)
    (hread : disk.readText log = .ok text) (hparse : Progress.parse text = .ok series)
    {cause : Artifact.Fault}
    (hwrite : writer.write disk series (run.artifactPath log writer.format.extension) run =
      .error cause) :
    processLog writer disk log =
      ⟨disk, (Progress.readLog text).1 ++ [.logRead log series.size] ++
          (writer.content run series (run.artifactPath log writer.format.extension)).1,
        .error (.unwritten (run.artifactPath log writer.format.extension) cause)⟩ := by
  simp only [processLog, hrun, readLog_of_text hread, hparse, hwrite]

theorem processLog_of_written (hrun : Run.ofPath? log = some run)
    (hread : disk.readText log = .ok text) (hparse : Progress.parse text = .ok series)
    {written : Disk}
    (hwrite : writer.write disk series (run.artifactPath log writer.format.extension) run =
      .ok written) :
    processLog writer disk log =
      ⟨written, (Progress.readLog text).1 ++ [.logRead log series.size] ++
          (writer.content run series (run.artifactPath log writer.format.extension)).1 ++
          [.artifactWritten (run.artifactPath log writer.format.extension) series.size run],
        .ok (run.artifactPath log writer.format.extension)⟩ := by
  simp only [processLog, hrun, readLog_of_text hread, hparse, hwrite]

end ProcessLog

/-- A directory without logs is a batch of none, but for a report. -/
theorem processDirectory_of_discover (writer : Artifact.Writer) {disk : Disk} {directory : Path}
    {events : List Event} {logs : List Path} (h : discover disk directory = (events, .ok logs)) :
    let outcome := processDirectory writer disk directory
    let batch := processLogs writer disk logs
    outcome.disk = batch.disk ∧ outcome.result = batch.result ∧
      outcome.events.filter reportsArtifact =
        events.filter reportsArtifact ++ batch.events.filter reportsArtifact := by
  intro outcome batch
  cases logs with
  | nil =>
      have houtcome : outcome = ⟨disk, events ++ [.noLogs directory], .ok []⟩ := by
        simp only [outcome, processDirectory, h]
      rw [houtcome]
      refine ⟨rfl, rfl, ?_⟩
      rw [List.filter_append]
      rfl
  | cons log rest =>
      have houtcome : outcome = { batch with events := events ++ batch.events } := by
        simp only [outcome, processDirectory, h]
        rfl
      rw [houtcome]
      exact ⟨rfl, rfl, List.filter_append _ _⟩

end Batch

end BenchChart
