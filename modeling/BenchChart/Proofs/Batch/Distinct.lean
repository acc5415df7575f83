import BenchChart.Proofs.Batch.Confined
import BenchChart.Proofs.Batch.Table
import BenchChart.Proofs.Run.RoundTrip
import Mathlib.Data.List.Nodup

/-!
# Logs that share an artifact

The artifact of a log is named after the parameters that are read off the name of the log. Whatever
else the name holds is lost, so two logs share an artifact if and only if the same name is made
again of their parameters. A log with a name of readable parameters shares its artifact with no
other such log; and if no artifact is shared, each holds the table of its log after the batch.
-/

namespace BenchChart

theorem Disk.nodup_names {disk : Disk} (h : (disk.entries.map Prod.fst).Nodup)
    (place : Location) : (disk.names place).Nodup := by
  rw [Disk.names_eq_filterMap_keys]
  refine h.filterMap ?_
  intro a b name ha hb
  split at ha
  · cases ha
  · split at hb
    · cases hb
    · simp only [Option.mem_ite_none_right, Option.mem_some_iff] at ha hb
      rw [ha.1, ha.2, hb.1, hb.2]

theorem Run.artifactFile_eq_iff {run other : Run} (format : Artifact.Format) :
    run.artifactFile format = other.artifactFile format ↔ run.logName = other.logName := by
  simp only [Run.artifactFile, Run.logName, Run.artifactName, Text.encode_inj, String.toList_append,
    List.append_left_inj]

namespace Batch

def artifact? (format : Artifact.Format) (log : Path) : Option Path :=
  (Run.ofPath? log).map fun run => run.artifactPath log format.extension

/-- The name that is made again of the parameters that a log has. -/
def remade? (log : Path) : Option (List Char) := (Run.ofPath? log).map Run.logName

/-- The name of the log is made of readable parameters. -/
def LaidOut (log : Path) : Prop :=
  ∃ run : Run, run.Readable ∧ log.fileName? = some (Text.encode run.logName)

theorem artifact?_eq_iff {directory a b : Path} (ha : IsLog directory a) (hb : IsLog directory b)
    (format : Artifact.Format) :
    artifact? format a = artifact? format b ↔ remade? a = remade? b := by
  obtain ⟨parent, hparent⟩ := exists_parent_of_isLog directory format
  obtain ⟨run, hrun, hartifact, hfile, _⟩ := hparent a ha
  obtain ⟨other, hother, hartifact', hfile', _⟩ := hparent b hb
  simp only [artifact?, remade?, hrun, hother, Option.map_some, Option.some.injEq, hartifact,
    hartifact', Path.join_inj parent hfile.noSlash hfile'.noSlash, Run.artifactFile_eq_iff]

theorem exists_remade?_of_laidOut {directory log : Path} (hlog : IsLog directory log)
    (h : LaidOut log) :
    ∃ name, remade? log = some name ∧ log = directory.join (Text.encode name) := by
  obtain ⟨bytes, name, hbytes, hname, _, rfl⟩ := hlog
  obtain ⟨run, hrun, hfile⟩ := h
  rw [Path.fileName?_join directory hbytes, Option.some.injEq] at hfile
  have hencode := Text.encode_of_decode? hname
  have hremade : name = run.logName := by
    rwa [hfile, Text.encode_inj] at hencode
  refine ⟨name, ?_, by rw [hencode]⟩
  rw [remade?, Run.ofPath?, Path.fileName?_join directory hbytes, Option.bind_some, hname,
    Option.map_some, Option.map_some, hremade, Run.ofFileName_logName hrun]

theorem remade?_inj_of_laidOut {directory a b : Path} (ha : IsLog directory a)
    (hb : IsLog directory b) (hlaidA : LaidOut a) (hlaidB : LaidOut b)
    (h : remade? a = remade? b) : a = b := by
  obtain ⟨name, hname, hjoin⟩ := exists_remade?_of_laidOut ha hlaidA
  obtain ⟨name', hname', hjoin'⟩ := exists_remade?_of_laidOut hb hlaidB
  rw [hname, hname', Option.some.injEq] at h
  rw [hjoin, hjoin', h]

theorem artifact?_of_processLog {writer : Artifact.Writer} {disk : Disk} {log artifact : Path}
    (h : (processLog writer disk log).result = .ok artifact) :
    artifact? writer.format log = some artifact := by
  rw [processLog] at h
  split at h
  · cases h
  · next run hrun =>
      split at h
      · cases h
      · simp only at h
        split at h
        · cases h
        · rw [artifact?, hrun, ← Except.ok.inj h]
          rfl

/-- The paths that a batch tells are those of the artifacts of its logs. -/
theorem map_some_of_processLogs {writer : Artifact.Writer} {disk : Disk} {logs paths : List Path}
    (h : (processLogs writer disk logs).result = .ok paths) :
    paths.map some = logs.map (artifact? writer.format) := by
  induction logs generalizing disk paths with
  | nil =>
      cases h
      rfl
  | cons log rest ih =>
      cases hfirst : (processLog writer disk log).result with
      | error failure =>
          rw [processLogs_cons_of_error hfirst] at h
          cases h
      | ok artifact =>
          rw [processLogs_cons_of_ok hfirst] at h
          cases hrest : (processLogs writer (processLog writer disk log).disk rest).result with
          | error failure =>
              simp only [hrest] at h
              cases h
          | ok others =>
              simp only [hrest] at h
              cases h
              rw [List.map_cons, List.map_cons, ih hrest, artifact?_of_processLog hfirst]

section Logs

variable {disk : Disk} {directory : Path} {logs : List Path}

theorem nodup_of_discover (hnames : disk.WellNamed) (hkeys : (disk.entries.map Prod.fst).Nodup)
    (hlogs : (discover disk directory).2 = .ok logs) : logs.Nodup := by
  obtain ⟨location, _, rfl⟩ := discover_eq_ok_iff.1 hlogs
  refine List.Nodup.map_on ?_ ((Disk.nodup_names hkeys location).filter _)
  intro a ha b hb hjoin
  have haSlash := hnames.noSlash_of_mem_names (List.mem_filter.1 ha).1
  have hbSlash := hnames.noSlash_of_mem_names (List.mem_filter.1 hb).1
  exact (Path.join_inj directory haSlash hbSlash).1 hjoin

/-- The artifacts of a directory's logs differ if and only if the names that are made again do. -/
theorem nodup_map_artifact?_iff (hall : ∀ log ∈ logs, IsLog directory log)
    (format : Artifact.Format) :
    (logs.map (artifact? format)).Nodup ↔ (logs.map remade?).Nodup := by
  rw [List.Nodup, List.Nodup, List.pairwise_map, List.pairwise_map]
  refine List.Pairwise.iff_of_mem ?_
  intro a b ha hb
  exact not_congr (artifact?_eq_iff (hall a ha) (hall b hb) format)

theorem nodup_map_remade?_of_laidOut (hnodup : logs.Nodup)
    (hall : ∀ log ∈ logs, IsLog directory log) (hlaid : ∀ log ∈ logs, LaidOut log) :
    (logs.map remade?).Nodup := by
  refine hnodup.map_on ?_
  intro a ha b hb h
  exact remade?_inj_of_laidOut (hall a ha) (hall b hb) (hlaid a ha) (hlaid b hb) h

end Logs

/-- Only the places of artifacts are written to. -/
theorem node?_processLogs (writer : Artifact.Writer) {disk : Disk} {directory : Path}
    {location : Location} (hleads : disk.LeadsToDirectory directory location) {logs : List Path}
    (hall : ∀ log ∈ logs, IsLog directory log) {place : Location}
    (hplace : ∀ log ∈ logs, ∀ run, Run.ofPath? log = some run →
      place ≠ run.artifactFile writer.format :: location) :
    (processLogs writer disk logs).disk.node? place = disk.node? place := by
  induction logs generalizing disk with
  | nil => rfl
  | cons log rest ih =>
      rw [List.forall_mem_cons] at hall hplace
      have hfirst : (processLog writer disk log).disk.node? place = disk.node? place := by
        obtain ⟨run, hrun⟩ := hall.1.exists_run
        rcases processLog_disk_cases writer hleads hall.1 hrun with hsame | ⟨_, content, hput⟩
        · rw [hsame]
        · rw [hput, Disk.node?_put_of_ne _ (hplace.1 run hrun)]
      cases hresult : (processLog writer disk log).result with
      | error failure =>
          rw [processLogs_cons_of_error hresult]
          exact hfirst
      | ok artifact =>
          have hkeeps := (processLog_written writer hleads hall.1).keeps
          rw [processLogs_cons_of_ok hresult, ← hfirst]
          exact ih (hleads.of_keeps hkeeps) hall.2 hplace.2

theorem processLogs_append_cases (writer : Artifact.Writer) (disk : Disk) (front back : List Path) :
    (processLogs writer disk (front ++ back)).disk = (processLogs writer disk front).disk ∨
      (processLogs writer disk (front ++ back)).disk =
        (processLogs writer (processLogs writer disk front).disk back).disk := by
  induction front generalizing disk with
  | nil => exact .inr rfl
  | cons log rest ih =>
      rw [List.cons_append]
      cases hresult : (processLog writer disk log).result with
      | error failure =>
          rw [processLogs_cons_of_error hresult, processLogs_cons_of_error hresult]
          exact .inl rfl
      | ok artifact =>
          rw [processLogs_cons_of_ok hresult, processLogs_cons_of_ok hresult]
          exact ih _

/-- Once a log has its artifact, no log after it that shares none with it writes there. -/
theorem read_artifact_of_append (writer : Artifact.Writer) {disk : Disk} {directory : Path}
    {location : Location} (hleads : disk.LeadsToDirectory directory location)
    {front back : List Path} (hall : ∀ log ∈ front ++ back, IsLog directory log) {log : Path}
    (hlog : IsLog directory log) (hback : remade? log ∉ back.map remade?) {artifact : Path}
    (hartifact : artifact? writer.format log = some artifact) :
    (processLogs writer disk (front ++ back)).disk.read artifact =
      (processLogs writer disk front).disk.read artifact := by
  rcases processLogs_append_cases writer disk front back with hsame | hmore
  · rw [hsame]
  rw [List.forall_mem_append] at hall
  have hfront := hleads.of_keeps (processLogs_written writer hleads hall.1).keeps
  have hafter := hfront.of_keeps (processLogs_written writer hfront hall.2).keeps
  obtain ⟨parent, hparent⟩ := exists_parent_of_isLog directory writer.format
  obtain ⟨run, hrun, hpath, hfile, hchild⟩ := hparent log hlog
  rw [artifact?, hrun, Option.map_some, Option.some.injEq, hpath] at hartifact
  rw [hmore, ← hartifact]
  -- A log that comes later writes to another name in the same directory.
  refine Disk.read_congr_of_isChild hfront hafter hfile hchild ?_
  refine node?_processLogs writer hfront hall.2 ?_
  intro other hother run' hrun' he
  have hname := (Run.artifactFile_eq_iff writer.format).1 (List.cons.inj he).1
  have hremade : remade? other = remade? log := by
    rw [remade?, remade?, hrun, hrun', Option.map_some, Option.map_some, hname]
  rw [← hremade] at hback
  exact hback (List.mem_map_of_mem hother)

theorem Course.isPrefix {disk : Disk} {logs : List Path} {done : List (Rendering disk)}
    {result : Except Failure (List Path)} (h : Course disk logs done result) :
    done.map Rendering.log <+: logs := by
  cases h with
  | complete => exact List.prefix_rfl
  | stopped _ rest failed => exact List.prefix_append _ _

/-- Tables of logs that share none are all still there after the batch. -/
theorem Leaves.read_of_nodup {disk : Disk} {logs : List Path} {done : List (Rendering disk)}
    {outcome : Outcome (List Path)} (h : Leaves disk logs done outcome)
    (hnodup : (done.map Rendering.artifact).Nodup) {r : Rendering disk} (hr : r ∈ done) :
    outcome.disk.read r.artifact = .ok r.content := by
  obtain ⟨front, back, horder⟩ := List.append_of_mem hr
  refine h.written front r back horder ?_
  intro s hs he
  rw [horder, List.map_append, List.map_cons] at hnodup
  have hback := (List.nodup_cons.1 (List.nodup_append.1 hnodup).2.1).1
  rw [← he] at hback
  exact hback (List.mem_map_of_mem hs)

theorem nodup_artifact_of_course {disk : Disk} {directory : Path} {logs : List Path}
    {done : List (Rendering disk)} {result : Except Failure (List Path)}
    (h : Course disk logs done result) (hall : ∀ log ∈ logs, IsLog directory log)
    (hnodup : (logs.map remade?).Nodup) : (done.map Rendering.artifact).Nodup := by
  have hartifact : (done.map Rendering.artifact).map some =
      (done.map Rendering.log).map (artifact? .csv) := by
    rw [List.map_map, List.map_map]
    refine List.map_congr_left ?_
    intro r _
    simp only [Function.comp_apply, artifact?, r.run_eq, Option.map_some]
    rfl
  apply List.Nodup.of_map some
  rw [hartifact, nodup_map_artifact?_iff fun log hlog => hall log (h.isPrefix.subset hlog)]
  exact hnodup.sublist (h.isPrefix.sublist.map remade?)

/-- Two logs have one artifact if and only if one name is made again of their parameters, which is
not so for logs with names of readable parameters. If the names that are made again all differ, each
log has an artifact of its own and none is written over. -/
theorem artifacts_distinct {disk : Disk} {directory : Path} (hnames : disk.WellNamed)
    (hkeys : (disk.entries.map Prod.fst).Nodup) {events : List Event} {logs : List Path}
    (hlogs : discover disk directory = (events, .ok logs)) :
    (∀ format, ∀ log ∈ logs, (artifact? format log).isSome) ∧
      (∀ format, ∀ a ∈ logs, ∀ b ∈ logs,
        artifact? format a = artifact? format b ↔ remade? a = remade? b) ∧
      (∀ format, ∀ a ∈ logs, ∀ b ∈ logs, LaidOut a → LaidOut b → a ≠ b →
        artifact? format a ≠ artifact? format b) ∧
      (∀ writer paths, (processDirectory writer disk directory).result = .ok paths →
        paths.map some = logs.map (artifact? writer.format) ∧
          (paths.Nodup ↔ (logs.map remade?).Nodup)) ∧
      ((∀ log ∈ logs, LaidOut log) → (logs.map remade?).Nodup) ∧
      ((logs.map remade?).Nodup →
        (∀ writer front log back artifact, logs = front ++ log :: back →
          artifact? writer.format log = some artifact →
            (processDirectory writer disk directory).disk.read artifact =
              (processLogs writer disk (front ++ [log])).disk.read artifact) ∧
          let outcome := processDirectory .csv disk directory
          ∃ done, Leaves disk logs done outcome ∧ (done.map Rendering.artifact).Nodup ∧
            ∀ r ∈ done, outcome.disk.read r.artifact = .ok r.content) := by
  obtain ⟨⟨location, hleads⟩, hall, _⟩ := isLog_of_discover hnames hlogs
  refine ⟨?_, ?_, ?_, ?_, ?_, fun hnodup => ⟨?_, ?_⟩⟩
  · intro format log hlog
    obtain ⟨run, hrun⟩ := (hall log hlog).exists_run
    simp [artifact?, hrun]
  · intro format a ha b hb
    exact artifact?_eq_iff (hall a ha) (hall b hb) format
  · intro format a ha b hb hlaidA hlaidB hne h
    rw [artifact?_eq_iff (hall a ha) (hall b hb)] at h
    exact hne (remade?_inj_of_laidOut (hall a ha) (hall b hb) hlaidA hlaidB h)
  · intro writer paths hpaths
    rw [(processDirectory_of_discover writer hlogs).2.1] at hpaths
    have hmap := map_some_of_processLogs hpaths
    refine ⟨hmap, ?_⟩
    rw [← nodup_map_artifact?_iff hall writer.format, ← hmap,
      List.nodup_map_iff fun _ _ => Option.some.inj]
  · exact nodup_map_remade?_of_laidOut (nodup_of_discover hnames hkeys (by rw [hlogs])) hall
  · intro writer front log back artifact horder hartifact
    have hlog : IsLog directory log := hall log (by simp [horder])
    rw [horder, List.map_append, List.map_cons] at hnodup
    have hback := (List.nodup_cons.1 (List.nodup_append.1 hnodup).2.1).1
    have horder' : logs = (front ++ [log]) ++ back := by simpa using horder
    rw [horder'] at hall
    rw [(processDirectory_of_discover writer hlogs).1, horder']
    exact read_artifact_of_append writer hleads hall hlog hback hartifact
  · intro outcome
    obtain ⟨done, hleaves⟩ := exists_leaves hnames hlogs
    have hartifacts := nodup_artifact_of_course hleaves.course hall hnodup
    exact ⟨done, hleaves, hartifacts, fun r hr => hleaves.read_of_nodup hartifacts hr⟩

theorem artifacts_distinct_of_laidOut :
    let log := Text.encode "bench-int1-read2-hit3-A.txt".toList
    let other := Text.encode "bench-int1-read2-hit3-B.txt".toList
    let disk : Disk := ⟨[([log], .file []), ([other], .file [])], []⟩
    let directory : Path := ⟨[Path.slash]⟩
    let logs := [directory.join log, directory.join other]
    disk.WellNamed ∧ (disk.entries.map Prod.fst).Nodup ∧ discover disk directory = ([], .ok logs) ∧
      (∀ log ∈ logs, LaidOut log) ∧ (logs.map remade?).Nodup ∧
      artifact? .csv (directory.join log) ≠ artifact? .csv (directory.join other) := by
  intro log other disk directory logs
  have hnames : disk.WellNamed := by
    constructor <;> decide +kernel
  have hkeys : (disk.entries.map Prod.fst).Nodup := by decide +kernel
  have hlogs : discover disk directory = ([], .ok logs) := by decide +kernel
  obtain ⟨_, _, hdistinct, _, hremade, _⟩ := artifacts_distinct hnames hkeys hlogs
  have hlaid : ∀ log ∈ logs, LaidOut log := by
    rw [List.forall_mem_cons, List.forall_mem_singleton]
    constructor
    · exact ⟨⟨"1", "2", "3", "A"⟩, by constructor <;> decide +kernel, by decide +kernel⟩
    · exact ⟨⟨"1", "2", "3", "B"⟩, by constructor <;> decide +kernel, by decide +kernel⟩
  refine ⟨hnames, hkeys, hlogs, hlaid, hremade hlaid, ?_⟩
  exact hdistinct .csv _ (by simp [logs]) _ (by simp [logs]) (hlaid _ (by simp [logs]))
    (hlaid _ (by simp [logs])) (by decide +kernel)

/-- What stands before the mark of the intensity is lost, and so is the table of the first log. -/
theorem artifact_shared_after_odd_opening :
    let log := Text.encode "bench-int1-read2-hit3-A.txt".toList
    let other := Text.encode "bench-x-int1-read2-hit3-A.txt".toList
    let text := "...#4 @ 1 ms miss_ratio = 0, load_admit = 0, cache_tp = 0, core_tp = 0"
    let disk : Disk := ⟨[([log], .file (Text.encode text.toList)), ([other], .file [])], []⟩
    let directory : Path := ⟨[Path.slash]⟩
    let artifact := directory.join (Text.encode "bench-int1-read2-hit3-A.csv".toList)
    let outcome := processDirectory .csv disk directory
    discover disk directory = ([], .ok [directory.join log, directory.join other]) ∧
      directory.join log ≠ directory.join other ∧
      artifact? .csv (directory.join log) = artifact? .csv (directory.join other) ∧
      outcome.result = .ok [artifact, artifact] ∧
      outcome.disk.read artifact = .ok (tableBytes Series.empty) ∧
      (processLog .csv disk (directory.join log)).disk.read artifact ≠
        outcome.disk.read artifact := by
  decide +kernel

end Batch

end BenchChart
