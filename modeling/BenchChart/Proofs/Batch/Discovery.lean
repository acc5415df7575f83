import BenchChart.Proofs.Batch.Distinct
import BenchChart.Proofs.Text.Encoded

/-!
# What else is in the directory of a batch

A batch goes by the names of logs: `HasLogName`. Entries with other names are passed over, and what
they are makes no difference to the batch, save for one thing: a directory at the place of an
artifact keeps it from being written. `Agree` relates two disks with the same logs and the same such
directories; each step of the batch keeps it, and gives one result on both.
-/

namespace BenchChart

def Disk.isFileAt (disk : Disk) (location : Location) : Bool :=
  match disk.node? location with
  | some (.file _) => true
  | _ => false

theorem Disk.exists_node_of_mem_names {disk : Disk} {location : Location} {name : Name}
    (h : name ∈ disk.names location) : ∃ node, disk.node? (name :: location) = some node := by
  obtain ⟨⟨place, node⟩, hentry, hmatch⟩ := List.mem_filterMap.1 h
  obtain rfl : place = name :: location := by
    cases place with
    | nil => cases hmatch
    | cons first parent => simpa [and_comm] using hmatch
  have hkey : disk.entries.lookup (name :: location) ≠ none := by
    rw [Ne, Entries.lookup_eq_none_iff_not_mem, not_not]
    exact List.mem_map_of_mem hentry
  obtain ⟨found, hfound⟩ := Option.ne_none_iff_exists'.1 hkey
  exact ⟨found, by simpa [node?] using hfound⟩

namespace Batch

/-- The name is UTF-8 text that starts and ends like the name of a log. -/
def HasLogName (name : Name) : Prop :=
  ∃ text, Text.encode text = name ∧ "bench-".toList <+: text ∧ ".txt".toList <:+ text

theorem isSome_logName?_iff {name : Name} : (logName? name).isSome ↔ HasLogName name := by
  simp only [logName?, Option.isSome_iff_exists, Option.filter_eq_some_iff,
    Text.decode?_eq_some_iff, Run.isLogName, Bool.and_eq_true, Text.startsWith_iff,
    Text.endsWith_iff]
  rfl

instance : DecidablePred HasLogName := fun _ => decidable_of_iff _ isSome_logName?_iff

/-- The files in a directory that have the name of a log. -/
def logFiles (disk : Disk) (location : Location) : List Name :=
  (disk.names location).filter fun name => HasLogName name && disk.isFileAt (name :: location)

/-- A directory has the same logs on two disks, and directories at the places of the same
artifacts. -/
structure Agree (directory : Path) (location : Location) (format : Artifact.Format)
    (logs : List Path) (disk other : Disk) : Prop where
  leads : disk.LeadsToDirectory directory location
  leadsOther : other.LeadsToDirectory directory location
  log : ∀ name, HasLogName name → other.node? (name :: location) = disk.node? (name :: location)
  artifact : ∀ log ∈ logs, ∀ run, Run.ofPath? log = some run →
    (other.node? (run.artifactFile format :: location) = some .directory ↔
      disk.node? (run.artifactFile format :: location) = some .directory)

/-- Two disks with the same directories in the way of an artifact let it be written alike. -/
theorem write_artifact_cases (writer : Artifact.Writer) (run : Run) (series : Series)
    {disk other : Disk} {directory p : Path} {location : Location} {name : Name}
    (hleads : disk.LeadsToDirectory directory location)
    (hother : other.LeadsToDirectory directory location) (hname : Path.IsName name)
    (hchild : Path.IsChild p directory name)
    (hnode : other.node? (name :: location) = some .directory ↔
      disk.node? (name :: location) = some .directory) :
    (∃ cause, writer.write disk series p run = .error cause ∧
        writer.write other series p run = .error cause) ∨
      ∃ content, disk.node? (name :: location) ≠ some .directory ∧
        writer.write disk series p run = .ok (disk.put (name :: location) (.file content)) ∧
        writer.write other series p run = .ok (other.put (name :: location) (.file content)) := by
  cases hcontent : (writer.content run series p).2 with
  | error cause =>
      have hwrite := Artifact.Writer.write_of_content_error hcontent
      exact .inl ⟨cause, hwrite disk, hwrite other⟩
  | ok content =>
      rw [Artifact.Writer.write_of_content_ok hcontent,
        Artifact.Writer.write_of_content_ok hcontent]
      rcases Disk.write_cases hleads hother hname hchild hnode content with
        ⟨fault, hwrite, hwriteOther⟩ | ⟨_, hvacant, hwrite, hwriteOther⟩
      · rw [hwrite, hwriteOther]
        exact .inl ⟨_, rfl, rfl⟩
      · rw [hwrite, hwriteOther]
        exact .inr ⟨_, hvacant, rfl, rfl⟩

section Agree

variable {directory log : Path} {location : Location} {format : Artifact.Format}
  {logs : List Path} {disk other : Disk}

theorem Agree.readText_eq (h : Agree directory location format logs disk other)
    (hlog : IsLog directory log) : other.readText log = disk.readText log := by
  obtain ⟨bytes, name, hbytes, hname, hlogName, rfl⟩ := hlog
  have hhas : HasLogName bytes := isSome_logName?_iff.1 (by simp [logName?, hname, hlogName])
  rw [Disk.readText, Disk.readText, Disk.read_congr_of_isChild h.leads h.leadsOther hbytes
    (Path.isChild_join directory hbytes.noSlash) (h.log bytes hhas)]

theorem Agree.put (h : Agree directory location format logs disk other) {run : Run}
    (hfile : Path.IsName (run.artifactFile format))
    (hvacant : disk.node? (run.artifactFile format :: location) ≠ some .directory)
    (hvacantOther : other.node? (run.artifactFile format :: location) ≠ some .directory)
    (content : List UInt8) :
    Agree directory location format logs
      (disk.put (run.artifactFile format :: location) (.file content))
      (other.put (run.artifactFile format :: location) (.file content)) := by
  have hnotLog := logName?_artifactFile run format
  have hwritten := Written.file .unchanged hfile hnotLog hvacant content
  have hwrittenOther := Written.file .unchanged hfile hnotLog hvacantOther content
  refine ⟨h.leads.of_keeps hwritten.keeps, h.leadsOther.of_keeps hwrittenOther.keeps, ?_, ?_⟩
  · intro name hname
    have hne : name :: location ≠ run.artifactFile format :: location := by
      rintro he
      rw [(List.cons.inj he).1, ← isSome_logName?_iff, hnotLog] at hname
      cases hname
    rw [Disk.node?_put_of_ne _ hne, Disk.node?_put_of_ne _ hne, h.log name hname]
  · intro log hlog run' hrun'
    by_cases hsame : run'.artifactFile format :: location = run.artifactFile format :: location
    · rw [hsame, Disk.node?_put_self _ (List.cons_ne_nil _ _),
        Disk.node?_put_self _ (List.cons_ne_nil _ _)]
    · rw [Disk.node?_put_of_ne _ hsame, Disk.node?_put_of_ne _ hsame]
      exact h.artifact log hlog run' hrun'

end Agree

/-- A log is processed alike on disks that agree, and they agree afterwards. -/
theorem Agree.processLog {writer : Artifact.Writer} {directory log : Path} {location : Location}
    {logs : List Path} {disk other : Disk}
    (h : Agree directory location writer.format logs disk other) (hmem : log ∈ logs)
    (hlog : IsLog directory log) :
    (processLog writer other log).result = (processLog writer disk log).result ∧
      Agree directory location writer.format logs (processLog writer disk log).disk
        (processLog writer other log).disk := by
  obtain ⟨parent, hparent⟩ := exists_parent_of_isLog directory writer.format
  obtain ⟨run, hrun, hartifact, hfile, hchild⟩ := hparent log hlog
  rw [← hartifact] at hchild
  have hreadOther := h.readText_eq hlog
  cases hread : disk.readText log with
  | error cause =>
      rw [hread] at hreadOther
      rw [processLog_of_unread hrun hread, processLog_of_unread hrun hreadOther]
      exact ⟨rfl, h⟩
  | ok text =>
      rw [hread] at hreadOther
      cases hparse : Progress.parse text with
      | error cause =>
          rw [processLog_of_unparsed hrun hread hparse,
            processLog_of_unparsed hrun hreadOther hparse]
          exact ⟨rfl, h⟩
      | ok series =>
          have hnode := h.artifact log hmem run hrun
          rcases write_artifact_cases writer run series h.leads h.leadsOther hfile hchild hnode with
            ⟨cause, hwrite, hwriteOther⟩ | ⟨content, hvacant, hwrite, hwriteOther⟩
          · rw [processLog_of_unwritten hrun hread hparse hwrite,
              processLog_of_unwritten hrun hreadOther hparse hwriteOther]
            exact ⟨rfl, h⟩
          · rw [processLog_of_written hrun hread hparse hwrite,
              processLog_of_written hrun hreadOther hparse hwriteOther]
            exact ⟨rfl, h.put hfile hvacant (fun hd => hvacant (hnode.1 hd)) content⟩

theorem Agree.processLogs {writer : Artifact.Writer} {directory : Path} {location : Location}
    {logs : List Path} {disk other : Disk}
    (h : Agree directory location writer.format logs disk other) {todo : List Path}
    (hsub : todo ⊆ logs) (hall : ∀ log ∈ todo, IsLog directory log) :
    (processLogs writer other todo).result = (processLogs writer disk todo).result := by
  -- The disks still agree after each log, which is all that the logs after it need.
  induction todo generalizing disk other with
  | nil => rfl
  | cons log rest ih =>
      obtain ⟨hmem, hrest⟩ := List.cons_subset.1 hsub
      obtain ⟨hlog, hothers⟩ := List.forall_mem_cons.1 hall
      obtain ⟨hresult, hagree⟩ := h.processLog hmem hlog
      cases hfirst : (Batch.processLog writer disk log).result with
      | error failure =>
          rw [processLogs_cons_of_error hfirst, processLogs_cons_of_error (hresult.trans hfirst)]
      | ok artifact =>
          rw [processLogs_cons_of_ok hfirst, processLogs_cons_of_ok (hresult.trans hfirst)]
          simp only [ih hagree hrest hothers]

theorem exists_write_of_processLog {writer : Artifact.Writer} {disk : Disk} {log artifact : Path}
    {run : Run} (hrun : Run.ofPath? log = some run)
    (h : (processLog writer disk log).result = .ok artifact) :
    ∃ series written,
      writer.write disk series (run.artifactPath log writer.format.extension) run =
        .ok written := by
  rw [processLog, hrun] at h
  dsimp only at h
  split at h
  · cases h
  · next series _ =>
      cases hwrite : writer.write disk series
          (run.artifactPath log writer.format.extension) run with
      | error cause =>
          simp only [hwrite] at h
          cases h
      | ok written => exact ⟨series, written, hwrite⟩

theorem vacant_of_processLog {writer : Artifact.Writer} {disk : Disk}
    {directory log artifact : Path} {location : Location}
    (hleads : disk.LeadsToDirectory directory location) (hlog : IsLog directory log) {run : Run}
    (hrun : Run.ofPath? log = some run)
    (h : (processLog writer disk log).result = .ok artifact) :
    disk.node? (run.artifactFile writer.format :: location) ≠ some .directory := by
  obtain ⟨parent, hparent⟩ := exists_parent_of_isLog directory writer.format
  obtain ⟨run', hrun', hartifact, hfile, hchild⟩ := hparent log hlog
  obtain rfl := Option.some.inj (hrun.symm.trans hrun')
  rw [← hartifact] at hchild
  obtain ⟨series, written, hwritten⟩ := exists_write_of_processLog hrun h
  rcases write_artifact_cases writer run series hleads hleads hfile hchild Iff.rfl with
    ⟨cause, hwrite, _⟩ | ⟨_, hvacant, _⟩
  · rw [hwritten] at hwrite
    cases hwrite
  · exact hvacant

/-- A directory in the way of an artifact ends the batch, if nothing does so before. -/
theorem exists_failure_of_blocked (writer : Artifact.Writer) {directory : Path}
    {location : Location} {disk : Disk} (hleads : disk.LeadsToDirectory directory location)
    {logs : List Path} (hall : ∀ log ∈ logs, IsLog directory log) {blocked : Path}
    (hmem : blocked ∈ logs) {run : Run} (hrun : Run.ofPath? blocked = some run)
    (hnode : disk.node? (run.artifactFile writer.format :: location) = some .directory) :
    ∃ failure, (processLogs writer disk logs).result = .error failure := by
  induction logs generalizing disk with
  | nil => cases hmem
  | cons log rest ih =>
      obtain ⟨hlog, hothers⟩ := List.forall_mem_cons.1 hall
      cases hfirst : (processLog writer disk log).result with
      | error failure => exact ⟨failure, by rw [processLogs_cons_of_error hfirst]⟩
      | ok artifact =>
          -- The log is another one, and what it writes leaves the directory where it is.
          have hkeeps := (processLog_written writer hleads hlog).keeps
          have hne : log ≠ blocked := by
            rintro rfl
            exact vacant_of_processLog hleads hlog hrun hfirst hnode
          obtain ⟨failure, hfailure⟩ := ih (hleads.of_keeps hkeeps) hothers
            (List.mem_of_ne_of_mem hne.symm hmem) (hkeeps.directory _ hnode)
          refine ⟨failure, ?_⟩
          rw [processLogs_cons_of_ok hfirst]
          simp only [hfailure]
          rfl

theorem discover_of_list {disk : Disk} {directory : Path} {names : List Name}
    (h : disk.list directory = .ok names) :
    discover disk directory = ((names.filter fun name => ¬HasLogName name).map .entrySkipped,
      .ok ((names.filter HasLogName).map directory.join)) := by
  have hlog (name : Name) : (logName? name).isSome = decide (HasLogName name) := by
    rw [Bool.eq_iff_iff, isSome_logName?_iff, decide_eq_true_iff]
  simp only [discover, h, List.partition_eq_filter_filter, hlog, decide_not]
  rfl

/-- Entries that have no log's name make no difference to the result. -/
theorem processDirectory_result_congr {writer : Artifact.Writer} {directory : Path}
    {location : Location} {disk other : Disk} (hnames : disk.WellNamed)
    (hsame : (other.names location).filter HasLogName = (disk.names location).filter HasLogName)
    (h : Agree directory location writer.format
      (((disk.names location).filter HasLogName).map directory.join) disk other) :
    (processDirectory writer other directory).result =
      (processDirectory writer disk directory).result := by
  have hdiscover := discover_of_list (Disk.list_eq_ok_iff.2 ⟨location, h.leads, rfl⟩)
  have hother := discover_of_list (Disk.list_eq_ok_iff.2 ⟨location, h.leadsOther, rfl⟩)
  obtain ⟨_, hall, _⟩ := isLog_of_discover hnames hdiscover
  rw [(processDirectory_of_discover writer hdiscover).2.1,
    (processDirectory_of_discover writer hother).2.1, hsame]
  exact h.processLogs (List.Subset.refl _) hall

theorem logFiles_eq {disk : Disk} {location : Location}
    (h : ∀ name, HasLogName name → disk.node? (name :: location) ≠ some .directory) :
    logFiles disk location = (disk.names location).filter HasLogName := by
  refine List.filter_congr fun name hmem => ?_
  by_cases hlog : HasLogName name
  · obtain ⟨node, hnode⟩ := Disk.exists_node_of_mem_names hmem
    cases node with
    | file content => simp [hlog, Disk.isFileAt, hnode]
    | directory => exact absurd hnode (h name hlog)
  · simp [hlog]

/-- A batch finds the files with the names of logs, in the order of the directory, each once. What
else is in the directory is reported and passed over; it makes no difference to the result unless it
is a directory at the place of an artifact, with which the batch fails. -/
theorem discover_by_name {disk : Disk} {directory : Path} (hnames : disk.WellNamed)
    (hkeys : (disk.entries.map Prod.fst).Nodup) {names : List Name}
    (hlist : disk.list directory = .ok names) :
    ∃ location found, disk.LeadsToDirectory directory location ∧
      (discover disk directory).2 = .ok (found.map directory.join) ∧
      found.Sublist names ∧ (found.map directory.join).Nodup ∧
      (logFiles disk location).Sublist found ∧ (∀ name ∈ found, HasLogName name) ∧
      ((names.filter fun name => ¬HasLogName name).map Event.entrySkipped).Sublist
        (discover disk directory).1 ∧
      ((∀ name, HasLogName name → disk.node? (name :: location) ≠ some .directory) →
        discover disk directory = ((names.filter fun name => ¬HasLogName name).map .entrySkipped,
          .ok ((logFiles disk location).map directory.join))) ∧
      (∀ (writer : Artifact.Writer) (other : Disk),
        (other.names location).filter HasLogName = names.filter HasLogName →
        Agree directory location writer.format (found.map directory.join) disk other →
        (processDirectory writer other directory).result =
          (processDirectory writer disk directory).result) ∧
      ∀ (writer : Artifact.Writer), ∀ name ∈ found, ∀ run,
        Run.ofPath? (directory.join name) = some run →
        disk.node? (run.artifactFile writer.format :: location) = some .directory →
        ∃ failure, (processDirectory writer disk directory).result = .error failure := by
  obtain ⟨location, hleads, rfl⟩ := Disk.list_eq_ok_iff.1 hlist
  have hdiscover := discover_of_list hlist
  obtain ⟨_, hall, _⟩ := isLog_of_discover hnames hdiscover
  refine ⟨location, (disk.names location).filter HasLogName, hleads, by rw [hdiscover],
    List.filter_sublist, ?_, ?_, ?_, ?_, ?_, ?_, ?_⟩
  · exact nodup_of_discover hnames hkeys (by rw [hdiscover])
  · refine List.monotone_filter_right _ fun name hname => ?_
    exact (Bool.and_eq_true_iff.1 hname).1
  · intro name hname
    simpa using (List.mem_filter.1 hname).2
  · rw [hdiscover]
  · intro hfiles
    rw [hdiscover, logFiles_eq hfiles]
  · intro writer other hsame h
    exact processDirectory_result_congr hnames hsame h
  · intro writer name hname run hrun hnode
    rw [(processDirectory_of_discover writer hdiscover).2.1]
    exact exists_failure_of_blocked writer hleads hall (List.mem_map_of_mem hname) hrun hnode

theorem discover_by_name_of_other_entries :
    let log := Text.encode "bench-int1-read2-hit3-A.txt".toList
    let notes := Text.encode "notes.txt".toList
    let disk : Disk := ⟨[([notes], .directory), ([log], .file []), ([[0xFF]], .file [])], []⟩
    let other : Disk := ⟨[([log], .file [])], []⟩
    let directory : Path := ⟨[Path.slash]⟩
    let writer := Artifact.Writer.csv
    disk.WellNamed ∧ (disk.entries.map Prod.fst).Nodup ∧
      disk.list directory = .ok [notes, log, [0xFF]] ∧
      discover disk directory =
        ([.entrySkipped notes, .entrySkipped [0xFF]], .ok [directory.join log]) ∧
      (processDirectory writer other directory).result =
        (processDirectory writer disk directory).result := by
  intro log notes disk other directory writer
  have hnames : disk.WellNamed := by
    constructor <;> decide +kernel
  have hkeys : (disk.entries.map Prod.fst).Nodup := by decide +kernel
  have hlist : disk.list directory = .ok [notes, log, [0xFF]] := by decide +kernel
  have hdiscover : discover disk directory =
      ([.entrySkipped notes, .entrySkipped [0xFF]], .ok [directory.join log]) := by
    decide +kernel
  obtain ⟨location, found, hleads, hfound, _, _, _, _, _, _, hcongr, _⟩ :=
    discover_by_name hnames hkeys hlist
  have hlocation : disk.locate directory = .ok [] := by decide +kernel
  obtain rfl := Except.ok.inj (hleads.locate_eq.symm.trans hlocation)
  rw [hdiscover] at hfound
  refine ⟨hnames, hkeys, hlist, hdiscover, hcongr writer other (by decide +kernel) ?_⟩
  rw [← Except.ok.inj hfound]
  refine ⟨hleads, ⟨by decide +kernel, by decide +kernel⟩, ?_, ?_⟩
  · intro name hname
    have hne {skipped : Name} (h : ¬HasLogName skipped) : (name == skipped) = false := by
      rw [beq_eq_false_iff_ne]
      rintro rfl
      exact h hname
    have hnotes : (name == notes) = false := hne (by decide +kernel)
    have hbyte : (name == [0xFF]) = false := hne (by decide +kernel)
    simp [Disk.node?, disk, other, List.lookup_cons, hnotes, hbyte]
  · intro log hlog run hrun
    obtain rfl := List.mem_singleton.1 hlog
    obtain rfl := Option.some.inj (hrun.symm.trans
      (show _ = some ⟨"1", "2", "3", "A"⟩ by decide +kernel))
    decide +kernel

/-- A directory with another name keeps a table from being written, and a directory with the name of
a log is taken for one. -/
theorem directory_in_the_way :
    let log := Text.encode "bench-int1-read2-hit3-A.txt".toList
    let table := Text.encode "bench-int1-read2-hit3-A.csv".toList
    let disk : Disk := ⟨[([log], .file []), ([table], .directory)], []⟩
    let other : Disk := ⟨[([log], .file [])], []⟩
    let named : Disk := ⟨[([log], .directory)], []⟩
    let directory : Path := ⟨[Path.slash]⟩
    let writer := Artifact.Writer.csv
    let artifact := directory.join table
    discover disk directory = ([.entrySkipped table], .ok [directory.join log]) ∧
      (processDirectory writer disk directory).result =
        .error (.unwritten artifact (.uncreated artifact .isDirectory)) ∧
      (processDirectory writer other directory).result = .ok [artifact] ∧
      logFiles named [] = [] ∧
      discover named directory = ([], .ok [directory.join log]) ∧
      (processDirectory writer named directory).result =
        .error (.unread (directory.join log) .isDirectory) := by
  decide +kernel

end Batch

end BenchChart
