import BenchChart.Proofs.Batch.Log

/-!
# Where a batch writes

A batch writes in its directory only, and only under names that no log has. `Written` tells the
disks that such writing leads to: whatever else is on the disk stays as it was, and so do the logs
that are found, in this directory and in any other. A batch can therefore be run again and again
without ever reading what it wrote.
-/

namespace BenchChart

namespace Batch

/-- What becomes of a disk when files are written in the directory at a location, in place of no
directory, under names that no log has. -/
inductive Written (location : Location) (disk : Disk) : Disk → Prop where
  | unchanged : Written location disk disk
  | file {later : Disk} {name : Name} (before : Written location disk later)
      (isName : Path.IsName name) (notLog : logName? name = none)
      (vacant : later.node? (name :: location) ≠ some .directory) (content : List UInt8) :
      Written location disk (later.put (name :: location) (.file content))

namespace Written

variable {location : Location} {disk later : Disk}

theorem trans {last : Disk} (h : Written location disk later) (h' : Written location later last) :
    Written location disk last := by
  induction h' with
  | unchanged => exact h
  | file _ isName notLog vacant content ih => exact ih.file isName notLog vacant content

/-- What is changed is a file in the directory, and its name is not that of a log. -/
theorem exists_name_of_ne (h : Written location disk later) {place : Location}
    (hplace : later.node? place ≠ disk.node? place) :
    ∃ name, place = name :: location ∧ Path.IsName name ∧ logName? name = none := by
  induction h with
  | unchanged => exact absurd rfl hplace
  | @file later name _ isName notLog _ content ih =>
      by_cases hname : place = name :: location
      · exact ⟨name, hname, isName, notLog⟩
      · rw [Disk.node?_put_of_ne _ hname] at hplace
        exact ih hplace

theorem keeps (h : Written location disk later) : disk.Keeps later := by
  induction h with
  | unchanged => exact ⟨fun _ => id, rfl⟩
  | @file later name _ _ _ vacant content ih =>
      refine ⟨?_, ih.current⟩
      intro place hplace
      have hlater := ih.directory place hplace
      have hne : place ≠ name :: location := by
        rintro rfl
        exact vacant hlater
      rw [Disk.node?_put_of_ne _ hne, hlater]

theorem wellNamed (h : Written location disk later) (hnames : disk.WellNamed)
    (hlocation : ∀ name ∈ location, Path.slash ∉ name) : later.WellNamed := by
  induction h with
  | unchanged => exact hnames
  | file _ isName _ _ content ih =>
      apply ih.put
      intro name hname
      rcases List.mem_cons.1 hname with rfl | hname
      · exact isName.noSlash
      · exact hlocation name hname

theorem filter_names (h : Written location disk later) (place : Location) :
    (later.names place).filter (fun name => (logName? name).isSome) =
      (disk.names place).filter (fun name => (logName? name).isSome) := by
  induction h with
  | unchanged => rfl
  | @file later name _ _ notLog _ content ih =>
      rcases later.names_put name location place (.file content) with hsame | hmore
      · rw [hsame, ih]
      · rw [hmore, List.filter_append, ih]
        simp [notLog]

end Written

theorem discover_eq_ok_iff {disk : Disk} {directory : Path} {logs : List Path} :
    (discover disk directory).2 = .ok logs ↔
      ∃ location, disk.LeadsToDirectory directory location ∧
        ((disk.names location).filter fun name => (logName? name).isSome).map directory.join =
          logs := by
  cases hlist : disk.list directory with
  | error fault =>
      simp only [discover, hlist, reduceCtorEq, false_iff, not_exists, not_and]
      intro location hleads
      rw [Disk.list_eq_ok_iff.2 ⟨location, hleads, rfl⟩] at hlist
      cases hlist
  | ok names =>
      obtain ⟨location, hleads, rfl⟩ := Disk.list_eq_ok_iff.1 hlist
      simp only [discover, hlist, List.partition_eq_filter_filter, Except.ok.injEq]
      constructor
      · intro h
        exact ⟨location, hleads, h⟩
      · rintro ⟨other, hother, h⟩
        obtain rfl := Except.ok.inj (hleads.locate_eq.symm.trans hother.locate_eq)
        exact h

theorem discover_of_written {disk later : Disk} {location : Location}
    (h : Written location disk later) {directory : Path} {logs : List Path}
    (hlogs : (discover disk directory).2 = .ok logs) : (discover later directory).2 = .ok logs := by
  obtain ⟨place, hleads, hnames⟩ := discover_eq_ok_iff.1 hlogs
  rw [← h.filter_names] at hnames
  exact discover_eq_ok_iff.2 ⟨place, hleads.of_keeps h.keeps, hnames⟩

theorem logName?_artifactFile (run : Run) (format : Artifact.Format) :
    logName? (run.artifactFile format) = none := by
  rw [logName?, Option.filter_eq_none_iff]
  intro name hname hlog
  exact Run.artifactFile_ne hname hlog run format rfl

theorem exists_write_of_ok {writer : Artifact.Writer} {disk written : Disk} {series : Series}
    {artifact : Path} {run : Run} (h : writer.write disk series artifact run = .ok written) :
    ∃ content, disk.write artifact content = .ok written := by
  cases hcontent : (writer.content run series artifact).2 with
  | error fault =>
      rw [Artifact.Writer.write_of_content_error hcontent] at h
      cases h
  | ok content =>
      rw [Artifact.Writer.write_of_content_ok hcontent] at h
      refine ⟨content, ?_⟩
      cases hwrite : disk.write artifact content with
      | error fault =>
          rw [hwrite] at h
          cases h
      | ok other =>
          rw [hwrite] at h
          cases h
          rfl

/-- One log leads to at most one file, beside it. -/
theorem processLog_disk_cases (writer : Artifact.Writer) {disk : Disk} {directory log : Path}
    {location : Location} (hleads : disk.LeadsToDirectory directory location)
    (hlog : IsLog directory log) {run : Run} (hrun : Run.ofPath? log = some run) :
    (processLog writer disk log).disk = disk ∨
      disk.node? (run.artifactFile writer.format :: location) ≠ some .directory ∧
        ∃ content, (processLog writer disk log).disk =
          disk.put (run.artifactFile writer.format :: location) (.file content) := by
  obtain ⟨parent, hparent⟩ := exists_parent_of_isLog directory writer.format
  obtain ⟨run', hrun', hartifact, hfile, hchild⟩ := hparent log hlog
  obtain rfl := Option.some.inj (hrun.symm.trans hrun')
  cases hread : disk.readText log with
  | error cause =>
      rw [processLog_of_unread hrun hread]
      exact .inl rfl
  | ok text =>
      cases hparse : Progress.parse text with
      | error cause =>
          rw [processLog_of_unparsed hrun hread hparse]
          exact .inl rfl
      | ok series =>
          cases hwrite : writer.write disk series
              (run.artifactPath log writer.format.extension) run with
          | error cause =>
              rw [processLog_of_unwritten hrun hread hparse hwrite]
              exact .inl rfl
          | ok written =>
              rw [processLog_of_written hrun hread hparse hwrite]
              obtain ⟨content, hcontent⟩ := exists_write_of_ok hwrite
              rw [hartifact] at hcontent
              rcases Disk.write_cases hleads hleads hfile hchild Iff.rfl content with
                ⟨fault, hfault, _⟩ | ⟨_, hvacant, hput, _⟩
              · rw [hfault] at hcontent
                cases hcontent
              · rw [hput] at hcontent
                exact .inr ⟨hvacant, content, (Except.ok.inj hcontent).symm⟩

theorem processLog_written (writer : Artifact.Writer) {disk : Disk} {directory log : Path}
    {location : Location} (hleads : disk.LeadsToDirectory directory location)
    (hlog : IsLog directory log) : Written location disk (processLog writer disk log).disk := by
  obtain ⟨_, hparent⟩ := exists_parent_of_isLog directory writer.format
  obtain ⟨run, hrun, _, hfile, _⟩ := hparent log hlog
  rcases processLog_disk_cases writer hleads hlog hrun with hsame | ⟨hvacant, content, hput⟩
  · rw [hsame]
    exact .unchanged
  · rw [hput]
    exact .file .unchanged hfile (logName?_artifactFile run _) hvacant content

theorem processLogs_written (writer : Artifact.Writer) {disk : Disk} {directory : Path}
    {location : Location} (hleads : disk.LeadsToDirectory directory location) {logs : List Path}
    (hlogs : ∀ log ∈ logs, IsLog directory log) :
    Written location disk (processLogs writer disk logs).disk := by
  induction logs generalizing disk with
  | nil => exact .unchanged
  | cons log rest ih =>
      have hfirst := processLog_written writer hleads (hlogs log List.mem_cons_self)
      cases hresult : (processLog writer disk log).result with
      | error failure =>
          rw [processLogs_cons_of_error hresult]
          exact hfirst
      | ok artifact =>
          rw [processLogs_cons_of_ok hresult]
          exact hfirst.trans (ih (hleads.of_keeps hfirst.keeps)
            fun log hmem => hlogs log (List.mem_cons_of_mem _ hmem))

theorem processDirectory_of_error (writer : Artifact.Writer) {disk : Disk} {directory : Path}
    {failure : Failure} (h : (discover disk directory).2 = .error failure) :
    (processDirectory writer disk directory).disk = disk := by
  rw [processDirectory]
  split
  · rfl
  · rfl
  · next hlogs =>
      rw [hlogs] at h
      cases h

theorem processDirectory_written (writer : Artifact.Writer) {disk : Disk} {directory : Path}
    {location : Location} (hnames : disk.WellNamed)
    (hleads : disk.LeadsToDirectory directory location) :
    Written location disk (processDirectory writer disk directory).disk := by
  obtain ⟨logs, hlogs⟩ : ∃ logs, (discover disk directory).2 = .ok logs :=
    ⟨_, discover_eq_ok_iff.2 ⟨location, hleads, rfl⟩⟩
  have hdiscover : discover disk directory = ((discover disk directory).1, .ok logs) := by
    rw [← hlogs]
  obtain ⟨_, hall, _⟩ := isLog_of_discover hnames hdiscover
  rw [(processDirectory_of_discover writer hdiscover).1]
  exact processLogs_written writer hleads hall

/-- The disk after one run after the other in a directory. -/
def rerun (directory : Path) (writers : List Artifact.Writer) (disk : Disk) : Disk :=
  writers.foldl (fun disk writer => (processDirectory writer disk directory).disk) disk

theorem rerun_cons (directory : Path) (writer : Artifact.Writer) (writers : List Artifact.Writer)
    (disk : Disk) :
    rerun directory (writer :: writers) disk =
      rerun directory writers (processDirectory writer disk directory).disk := rfl

theorem rerun_of_error {disk : Disk} {directory : Path} {failure : Failure}
    (h : (discover disk directory).2 = .error failure) (writers : List Artifact.Writer) :
    rerun directory writers disk = disk := by
  induction writers with
  | nil => rfl
  | cons writer writers ih => rw [rerun_cons, processDirectory_of_error writer h, ih]

/-- However often a directory is run, files are written in it only, and over no log. -/
theorem rerun_written {disk : Disk} {directory : Path} {location : Location}
    (hnames : disk.WellNamed) (hleads : disk.LeadsToDirectory directory location)
    (writers : List Artifact.Writer) : Written location disk (rerun directory writers disk) := by
  induction writers generalizing disk with
  | nil => exact .unchanged
  | cons writer writers ih =>
      have hfirst := processDirectory_written writer hnames hleads
      have hlocation := hnames.noSlash_of_leads hleads
      rw [rerun_cons]
      exact hfirst.trans (ih (hfirst.wellNamed hnames hlocation) (hleads.of_keeps hfirst.keeps))

/-- The artifact goes beside the log, to a path that leads to no log. -/
structure Beside (log : Path) (run : Run) (format : Artifact.Format) : Prop where
  parent : ∃ parent, log.parent? = some parent ∧
    run.artifactPath log format.extension = parent.join (run.artifactFile format) ∧
    (run.artifactPath log format.extension).parent? = some parent
  fileName : (run.artifactPath log format.extension).fileName? = some (run.artifactFile format)
  notLog : Run.isLogName (run.artifactName format.extension).toList = false
  ne : ∀ (other : Path) bytes, other.fileName? = some bytes → (logName? bytes).isSome →
    run.artifactPath log format.extension ≠ other

/-- A disk was changed in a directory only, and none of the logs that are found were. -/
structure Confined (directory : Path) (disk later : Disk) : Prop where
  written : later = disk ∨
    ∃ location, disk.LeadsToDirectory directory location ∧ Written location disk later
  elsewhere : ∀ place, later.node? place ≠ disk.node? place →
    ∃ location name, disk.LeadsToDirectory directory location ∧ place = name :: location ∧
      Path.IsName name ∧ logName? name = none
  read_log : ∀ logs, (discover disk directory).2 = .ok logs → ∀ log ∈ logs,
    later.read log = disk.read log
  discover_eq : (discover later directory).2 = (discover disk directory).2
  /-- Other directories list the same logs, too. -/
  discover_other : ∀ (other : Path) logs, (discover disk other).2 = .ok logs →
    (discover later other).2 = .ok logs

theorem beside_of_ofPath? {log : Path} {run : Run} (h : Run.ofPath? log = some run)
    (format : Artifact.Format) : Beside log run format := by
  obtain ⟨parent, hparent, hjoin, hbeside, hname⟩ := Run.artifactPath_beside h format
  refine ⟨⟨parent, hparent, hjoin, hbeside⟩, hname, Run.isLogName_artifactName run format, ?_⟩
  rintro other bytes hbytes hlog rfl
  obtain rfl := Option.some.inj (hname.symm.trans hbytes)
  rw [logName?_artifactFile] at hlog
  cases hlog

theorem confined_refl (directory : Path) (disk : Disk) : Confined directory disk disk :=
  ⟨.inl rfl, fun _ h => absurd rfl h, fun _ _ _ _ => rfl, rfl, fun _ _ => id⟩

theorem confined_of_written {directory : Path} {disk later : Disk} {location : Location}
    (hnames : disk.WellNamed) (hleads : disk.LeadsToDirectory directory location)
    (h : Written location disk later) : Confined directory disk later := by
  refine ⟨.inr ⟨location, hleads, h⟩, ?_, ?_, ?_, fun _ _ => discover_of_written h⟩
  · intro place hplace
    obtain ⟨name, hname⟩ := h.exists_name_of_ne hplace
    exact ⟨location, name, hleads, hname⟩
  · intro logs hlogs log hlog
    have hdiscover : discover disk directory = ((discover disk directory).1, .ok logs) := by
      rw [← hlogs]
    obtain ⟨_, hall, _⟩ := isLog_of_discover hnames hdiscover
    obtain ⟨bytes, name, hbytes, hname, hlogName, rfl⟩ := hall log hlog
    apply Disk.read_congr_of_isChild hleads (hleads.of_keeps h.keeps) hbytes
      (Path.isChild_join directory hbytes.noSlash)
    by_contra hne
    obtain ⟨artifact, he, _, hartifact⟩ := h.exists_name_of_ne hne
    obtain rfl := (List.cons.inj he).1
    simp [logName?, hname, hlogName] at hartifact
  · have hlogs := discover_eq_ok_iff.2 ⟨location, hleads, rfl⟩
    rw [hlogs, discover_of_written h hlogs]

/-- However a log is named, its artifact goes beside it under a name made of pieces of its name, and
no log has that name. So a batch writes in its directory only and over no log; and however often it
is run, the logs that are found are the same. -/
theorem rerun_confined (disk : Disk) (directory : Path) (hnames : disk.WellNamed) :
    (∀ name : List Char, (Run.ofFileName name).TakenFrom name ∧
        ('/' ∉ name → ∀ format : Artifact.Format,
          '/' ∉ ((Run.ofFileName name).artifactName format.extension).toList)) ∧
      (∀ (log : Path) (run : Run), Run.ofPath? log = some run →
        ∀ format : Artifact.Format, Beside log run format) ∧
      (∀ writer, Confined directory disk (processDirectory writer disk directory).disk) ∧
      ∀ writers, Confined directory disk (rerun directory writers disk) := by
  have hrerun : ∀ writers, Confined directory disk (rerun directory writers disk) := by
    intro writers
    cases hlogs : (discover disk directory).2 with
    | error failure =>
        rw [rerun_of_error hlogs]
        exact confined_refl directory disk
    | ok logs =>
        obtain ⟨location, hleads, _⟩ := discover_eq_ok_iff.1 hlogs
        exact confined_of_written hnames hleads (rerun_written hnames hleads writers)
  refine ⟨?_, fun log run h => beside_of_ofPath? h, fun writer => hrerun [writer], hrerun⟩
  intro name
  have htaken := Run.takenFrom_ofFileName name
  exact ⟨htaken, fun hslash => Run.slash_not_mem_artifactName htaken hslash⟩

theorem rerun_confined_of_odd_name :
    let log := Text.encode "bench-é-hit-int.txt".toList
    let disk : Disk := ⟨[([log], .file []), ([[0x61]], .directory)], []⟩
    let directory : Path := ⟨[Path.slash]⟩
    let painter : Painter := ⟨true, fun _ _ => .ok [0x89], Disk.Fault.message⟩
    let writers : List Artifact.Writer :=
      [.csv, .png Settings.default Settings.isSupported_default painter, .csv]
    disk.WellNamed ∧ rerun directory writers disk ≠ disk ∧
      Confined directory disk (rerun directory writers disk) ∧
      (discover (rerun directory writers disk) directory).2 = .ok [directory.join log] := by
  intro log disk directory painter writers
  have hnames : disk.WellNamed := by
    constructor <;> decide +kernel
  have hlogs : (discover disk directory).2 = .ok [directory.join log] := by decide +kernel
  have hconfined := (rerun_confined disk directory hnames).2.2.2 writers
  refine ⟨hnames, by decide +kernel, hconfined, ?_⟩
  rw [hconfined.discover_eq, hlogs]

end Batch

end BenchChart
