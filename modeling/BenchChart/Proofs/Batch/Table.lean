import BenchChart.Proofs.Batch.Log

/-!
# What a batch of tables leaves on the disk

A batch of tables is told by the disk that it starts on. A `Rendering` is a log that can be turned
into its table on that disk, `Fails` says why another one cannot, and `Course` puts them in order:
all logs are rendered, or those up to the first one that fails. `After` is the state that the disk
is in once some logs are rendered. It is kept by each step, because a table never has the name of a
log: logs still to be read are what they were at the start.
-/

namespace BenchChart

namespace Batch

def tablePath (run : Run) (log : Path) : Path :=
  run.artifactPath log Artifact.Format.csv.extension

def tableBytes (series : Series) : List UInt8 := Text.encode (Table.ofSeries series)

/-- A log that can be turned into its table. -/
structure Rendering (disk : Disk) where
  log : Path
  run : Run
  text : List Char
  series : Series
  run_eq : Run.ofPath? log = some run
  text_eq : disk.readText log = .ok text
  series_eq : Progress.parse text = .ok series
  creatable : ∃ written, disk.write (tablePath run log) (tableBytes series) = .ok written

namespace Rendering

variable {disk : Disk}

def artifact (r : Rendering disk) : Path := tablePath r.run r.log

def content (r : Rendering disk) : List UInt8 := tableBytes r.series

def file (r : Rendering disk) : Name := r.run.artifactFile .csv

def event (r : Rendering disk) : Event := .artifactWritten r.artifact r.series.size r.run

end Rendering

/-- Why a log cannot be turned into its table. -/
inductive Fails (disk : Disk) (log : Path) : Failure → Prop where
  | unread {cause : Disk.Fault} (read : disk.readText log = .error cause) :
      Fails disk log (.unread log cause)
  | unparsed {text : List Char} {cause : Progress.Error} (read : disk.readText log = .ok text)
      (parsed : Progress.parse text = .error cause) : Fails disk log (.unparsed log cause)
  | unwritten {run : Run} {text : List Char} {series : Series} {cause : Disk.Fault}
      (named : Run.ofPath? log = some run) (read : disk.readText log = .ok text)
      (parsed : Progress.parse text = .ok series)
      (written : disk.write (tablePath run log) (tableBytes series) = .error cause) :
      Fails disk log (.unwritten (tablePath run log) (.uncreated (tablePath run log) cause))

/-- How a batch goes: which logs are rendered and what the result is. -/
inductive Course (disk : Disk) :
    List Path → List (Rendering disk) → Except Failure (List Path) → Prop where
  | complete (done : List (Rendering disk)) :
      Course disk (done.map Rendering.log) done (.ok (done.map Rendering.artifact))
  /-- A log fails, and all logs before it are rendered. -/
  | stopped (done : List (Rendering disk)) {log : Path} {failure : Failure} (rest : List Path)
      (failed : Fails disk log failure) :
      Course disk (done.map Rendering.log ++ log :: rest) done (.error failure)

/-- What a disk has become when tables are written in the directory at a location. -/
structure After (disk : Disk) (location : Location) (done : List (Rendering disk))
    (later : Disk) : Prop where
  frame : ∀ place, (∀ r ∈ done, place ≠ r.file :: location) → later.node? place = disk.node? place
  content : ∀ front r back, done = front ++ r :: back → (∀ s ∈ back, s.file ≠ r.file) →
    later.node? (r.file :: location) = some (.file r.content)
  file : ∀ r ∈ done, ∃ bytes, later.node? (r.file :: location) = some (.file bytes)
  vacant : ∀ r ∈ done, disk.node? (r.file :: location) ≠ some .directory
  current : later.current = disk.current
  named : later.WellNamed

theorem Course.cons {disk : Disk} (r : Rendering disk) {logs : List Path}
    {done : List (Rendering disk)} {result : Except Failure (List Path)}
    (h : Course disk logs done result) :
    Course disk (r.log :: logs) (r :: done) (result.map (r.artifact :: ·)) := by
  cases h with
  | complete => exact .complete (r :: done)
  | stopped _ rest failed => exact .stopped (r :: done) rest failed

theorem after_nil {disk : Disk} (hnames : disk.WellNamed) (location : Location) :
    After disk location [] disk := by
  refine ⟨fun _ _ => rfl, ?_, by simp, by simp, rfl, hnames⟩
  intro front r back h
  simp at h

namespace After

variable {disk later : Disk} {location : Location} {done : List (Rendering disk)}

theorem keeps (h : After disk location done later) : disk.Keeps later := by
  refine ⟨?_, h.current⟩
  intro place hplace
  rw [h.frame, hplace]
  rintro r hr rfl
  exact h.vacant r hr hplace

theorem put (h : After disk location done later) (r : Rendering disk)
    (hvacant : disk.node? (r.file :: location) ≠ some .directory)
    (hnames : ∀ name ∈ r.file :: location, Path.slash ∉ name) :
    After disk location (done ++ [r]) (later.put (r.file :: location) (.file r.content)) := by
  refine ⟨?_, ?_, ?_, ?_, h.current, h.named.put hnames _⟩
  · intro place hplace
    rw [Disk.node?_put_of_ne _ (hplace r (by simp)), h.frame]
    intro s hs
    exact hplace s (List.mem_append_left _ hs)
  · intro front s back horder hlast
    rcases List.eq_nil_or_concat back with rfl | ⟨back, t, rfl⟩
    · obtain ⟨rfl, hlast⟩ := List.append_inj' horder rfl
      obtain rfl := List.singleton_inj.1 hlast
      exact Disk.node?_put_self _ (List.cons_ne_nil _ _) _
    · have horder' : done ++ [r] = (front ++ s :: back) ++ [t] := by simpa using horder
      obtain ⟨hdone, hlast'⟩ := List.append_inj' horder' rfl
      obtain rfl := List.singleton_inj.1 hlast'
      have hne : s.file :: location ≠ r.file :: location := by
        intro he
        exact hlast r (by simp) (List.cons.inj he).1.symm
      rw [Disk.node?_put_of_ne _ hne]
      exact h.content front s back hdone fun u hu => hlast u (by simp [hu])
  · intro s hs
    by_cases hfile : s.file = r.file
    · rw [hfile]
      exact ⟨_, Disk.node?_put_self _ (List.cons_ne_nil _ _) _⟩
    · have hne : s.file :: location ≠ r.file :: location := fun he => hfile (List.cons.inj he).1
      rw [Disk.node?_put_of_ne _ hne]
      rcases List.mem_append.1 hs with hs | hs
      · exact h.file s hs
      · exact absurd (congrArg Rendering.file (List.mem_singleton.1 hs)) hfile
  · intro s hs
    rcases List.mem_append.1 hs with hs | hs
    · exact h.vacant s hs
    · rw [List.mem_singleton.1 hs]
      exact hvacant

theorem directory_iff (h : After disk location done later) (place : Location) :
    later.node? place = some .directory ↔ disk.node? place = some .directory := by
  constructor
  · intro hplace
    rw [← h.frame, hplace]
    rintro r hr rfl
    obtain ⟨bytes, hbytes⟩ := h.file r hr
    rw [hbytes] at hplace
    cases hplace
  · exact h.keeps.directory place

theorem read_log (h : After disk location done later) {directory log : Path}
    (hleads : disk.LeadsToDirectory directory location) (hlog : IsLog directory log) :
    later.read log = disk.read log := by
  obtain ⟨bytes, name, hbytes, hname, hlogName, rfl⟩ := hlog
  apply Disk.read_congr_of_isChild hleads (hleads.of_keeps h.keeps) hbytes
    (Path.isChild_join directory hbytes.noSlash)
  apply h.frame
  intro r _ he
  exact Run.artifactFile_ne hname hlogName r.run .csv (List.cons.inj he).1.symm

theorem readText_log (h : After disk location done later) {directory log : Path}
    (hleads : disk.LeadsToDirectory directory location) (hlog : IsLog directory log) :
    later.readText log = disk.readText log := by
  rw [Disk.readText, h.read_log hleads hlog, Disk.readText]

end After

theorem write_table (disk : Disk) (series : Series) (artifact : Path) (run : Run) :
    Artifact.Writer.csv.write disk series artifact run =
      (disk.write artifact (tableBytes series)).mapError (Artifact.Fault.uncreated artifact) := rfl

/-- One log is rendered, or it fails and leaves the disk alone. -/
theorem processLog_cases {disk later : Disk} {directory log : Path} {location : Location}
    {done : List (Rendering disk)} (hnames : disk.WellNamed)
    (hleads : disk.LeadsToDirectory directory location) (h : After disk location done later)
    (hlog : IsLog directory log) :
    let step := processLog .csv later log
    (∃ r : Rendering disk, r.log = log ∧ step.result = .ok r.artifact ∧
        After disk location (done ++ [r]) step.disk ∧
        step.events.filter reportsArtifact = [r.event]) ∨
      ∃ failure, Fails disk log failure ∧ step.result = .error failure ∧ step.disk = later ∧
        step.events.filter reportsArtifact = [] := by
  obtain ⟨parent, hparent⟩ := exists_parent_of_isLog directory .csv
  obtain ⟨run, hrun, hartifact, hfile, hchild⟩ := hparent log hlog
  rw [← hartifact] at hchild
  have hlater := h.readText_log hleads hlog
  intro step
  cases hread : disk.readText log with
  | error cause =>
      have hstep : step = _ := processLog_of_unread hrun (hlater.trans hread)
      rw [hstep]
      exact .inr ⟨_, .unread hread, rfl, rfl, rfl⟩
  | ok text =>
      rw [hread] at hlater
      have hevents := filter_reportsArtifact_readLog text
      cases hparse : Progress.parse text with
      | error cause =>
          have hstep : step = _ := processLog_of_unparsed hrun hlater hparse
          rw [hstep]
          exact .inr ⟨_, .unparsed hread hparse, rfl, rfl, hevents⟩
      | ok series =>
          rcases Disk.write_cases hleads (hleads.of_keeps h.keeps) hfile hchild
              (h.directory_iff _) (tableBytes series) with
            ⟨fault, hwrite, hlaterWrite⟩ | ⟨_, hvacant, hwrite, hlaterWrite⟩
          · have hstep : step = _ := processLog_of_unwritten hrun hlater hparse
              ((write_table later series _ run).trans (congrArg _ hlaterWrite))
            rw [hstep]
            refine .inr ⟨_, .unwritten hrun hread hparse hwrite, rfl, rfl, ?_⟩
            rw [List.filter_append, List.filter_append, hevents, filter_reportsArtifact_content]
            rfl
          · have hstep : step = _ := processLog_of_written hrun hlater hparse
              ((write_table later series _ run).trans (congrArg _ hlaterWrite))
            rw [hstep]
            refine .inl ⟨⟨log, run, text, series, hrun, hread, hparse, _, hwrite⟩, rfl, rfl,
              h.put _ hvacant ?_, ?_⟩
            · intro name hname
              rcases List.mem_cons.1 hname with hfirst | hname
              · rw [hfirst]
                exact hfile.noSlash
              · exact hnames.noSlash_of_leads hleads name hname
            · rw [List.filter_append, List.filter_append, List.filter_append, hevents,
                filter_reportsArtifact_content]
              rfl

/-- A batch goes from the first log to the last one or to the first that fails. -/
theorem course_processLogs {disk : Disk} {directory : Path} {location : Location}
    (hnames : disk.WellNamed) (hleads : disk.LeadsToDirectory directory location) {logs : List Path}
    (hlogs : ∀ log ∈ logs, IsLog directory log) {done : List (Rendering disk)} {later : Disk}
    (h : After disk location done later) :
    let outcome := processLogs .csv later logs
    ∃ more, Course disk logs more outcome.result ∧
      After disk location (done ++ more) outcome.disk ∧
      outcome.events.filter reportsArtifact = more.map Rendering.event := by
  -- Each log finds another disk, but every such disk is one that is left after what is done.
  induction logs generalizing done later with
  | nil => exact ⟨[], .complete [], by rwa [List.append_nil], rfl⟩
  | cons log rest ih =>
      have hlog := hlogs log List.mem_cons_self
      have hrest : ∀ log ∈ rest, IsLog directory log :=
        fun log hmem => hlogs log (List.mem_cons_of_mem _ hmem)
      rcases processLog_cases hnames hleads h hlog with
        ⟨r, rfl, hresult, hafter, hevents⟩ | ⟨failure, hfails, hresult, hdisk, hevents⟩
      · obtain ⟨more, hcourse, hmore, hmoreEvents⟩ := ih hrest hafter
        rw [processLogs_cons_of_ok hresult]
        refine ⟨r :: more, hcourse.cons r, ?_, ?_⟩
        · rwa [List.append_assoc] at hmore
        · rw [List.filter_append, hevents, hmoreEvents]
          rfl
      · rw [processLogs_cons_of_error hresult, hdisk]
        exact ⟨[], .stopped [] rest hfails, by rwa [List.append_nil], hevents⟩

theorem Course.mem_logs {disk : Disk} {logs : List Path} {done : List (Rendering disk)}
    {result : Except Failure (List Path)} (h : Course disk logs done result)
    {r : Rendering disk} (hr : r ∈ done) : r.log ∈ logs := by
  cases h with
  | complete => exact List.mem_map_of_mem hr
  | stopped _ rest failed => exact List.mem_append_left _ (List.mem_map_of_mem hr)

theorem Rendering.locate_artifact {disk : Disk} (r : Rendering disk) {directory : Path}
    {location : Location} (hleads : disk.LeadsToDirectory directory location)
    (hname : Path.IsName r.file) (hchild : Path.IsChild r.artifact directory r.file) :
    disk.locate r.artifact = .ok (r.file :: location) := by
  obtain ⟨written, hwritten⟩ := r.creatable
  rcases Disk.write_cases hleads hleads hname hchild Iff.rfl r.content with
    ⟨fault, hwrite, _⟩ | ⟨hlocate, _⟩
  · have hcontra := hwritten.symm.trans hwrite
    cases hcontra
  · exact hlocate

/-- What a batch leaves behind when the logs of `done` are rendered. -/
structure Leaves (disk : Disk) (logs : List Path) (done : List (Rendering disk))
    (outcome : Outcome (List Path)) : Prop where
  course : Course disk logs done outcome.result
  /-- A failure on a progress line ends with the number of the line and what is wrong with it. -/
  chain : ∀ failure cause, outcome.result = .error failure → failure.progressError? = some cause →
    failure.chain.getLast? = some cause.message
  /-- A path has the table of the last log that it belongs to. -/
  written : ∀ front r back, done = front ++ r :: back → (∀ s ∈ back, s.artifact ≠ r.artifact) →
    outcome.disk.read r.artifact = .ok r.content
  /-- Nothing else is changed. -/
  frame : ∀ place, (∀ r ∈ done, disk.locate r.artifact ≠ .ok place) →
    outcome.disk.node? place = disk.node? place
  locate : ∀ p place, disk.locate p = .ok place → outcome.disk.locate p = .ok place
  kept : ∀ log ∈ logs, outcome.disk.read log = disk.read log
  /-- What has the path of a table that is not written is left as it was. -/
  unwritten : ∀ log ∈ logs, ∀ run, Run.ofPath? log = some run →
    (∀ r ∈ done, r.artifact ≠ tablePath run log) →
    outcome.disk.read (tablePath run log) = disk.read (tablePath run log)
  current : outcome.disk.current = disk.current
  named : outcome.disk.WellNamed
  /-- Each table is reported once. -/
  events : outcome.events.filter reportsArtifact = done.map Rendering.event

theorem Course.getLast?_chain {disk : Disk} {logs : List Path} {done : List (Rendering disk)}
    {failure : Failure} (h : Course disk logs done (.error failure)) {cause : Progress.Error}
    (hcause : failure.progressError? = some cause) :
    failure.chain.getLast? = some cause.message := by
  cases h with
  | stopped _ _ failed =>
      cases failed with
      | unread => cases hcause
      | unparsed =>
          cases hcause
          rfl
      | unwritten => cases hcause

theorem leaves_of_after {disk : Disk} {directory : Path} {location : Location}
    (hleads : disk.LeadsToDirectory directory location) {logs : List Path}
    (hlogs : ∀ log ∈ logs, IsLog directory log) {done : List (Rendering disk)}
    {outcome : Outcome (List Path)} (hcourse : Course disk logs done outcome.result)
    (hafter : After disk location done outcome.disk)
    (hevents : outcome.events.filter reportsArtifact = done.map Rendering.event) :
    Leaves disk logs done outcome := by
  obtain ⟨parent, hparent⟩ := exists_parent_of_isLog directory .csv
  have hrendering : ∀ r ∈ done, r.artifact = parent.join r.file ∧
      disk.locate r.artifact = .ok (r.file :: location) := by
    intro r hr
    obtain ⟨run, hrun, hartifact, hname, hchild⟩ := hparent r.log (hlogs _ (hcourse.mem_logs hr))
    rw [r.run_eq, Option.some.injEq] at hrun
    rw [← hrun] at hartifact hname hchild
    rw [← hartifact] at hchild
    exact ⟨hartifact, r.locate_artifact hleads hname hchild⟩
  constructor
  case course => exact hcourse
  case chain =>
    intro failure cause hresult hcause
    rw [hresult] at hcourse
    exact hcourse.getLast?_chain hcause
  case written =>
    intro front r back horder hlast
    have hr : r ∈ done := by simp [horder]
    apply Disk.read_of_locate (hafter.keeps.locate (hrendering r hr).2)
    apply hafter.content front r back horder
    intro s hs hfile
    have hs' : s ∈ done := by simp [horder, hs]
    exact hlast s hs (by rw [(hrendering s hs').1, hfile, (hrendering r hr).1])
  case frame =>
    intro place hplace
    apply hafter.frame
    rintro r hr rfl
    exact hplace r hr (hrendering r hr).2
  case locate =>
    intro p place
    exact hafter.keeps.locate
  case kept =>
    intro log hlog
    exact hafter.read_log hleads (hlogs log hlog)
  case unwritten =>
    intro log hlog run hrun hothers
    obtain ⟨run', hrun', hartifact, hname, hchild⟩ := hparent log (hlogs log hlog)
    rw [hrun, Option.some.injEq] at hrun'
    rw [← hrun'] at hartifact hname hchild
    rw [tablePath, hartifact] at hothers ⊢
    apply Disk.read_congr_of_isChild hleads (hleads.of_keeps hafter.keeps) hname hchild
    apply hafter.frame
    intro r hr he
    exact hothers r hr (by rw [(hrendering r hr).1, (List.cons.inj he).1])
  case current => exact hafter.current
  case named => exact hafter.named
  case events => exact hevents

theorem exists_leaves {disk : Disk} {directory : Path} (hnames : disk.WellNamed)
    {events : List Event} {logs : List Path} (h : discover disk directory = (events, .ok logs)) :
    ∃ done, Leaves disk logs done (processDirectory .csv disk directory) := by
  obtain ⟨⟨location, hleads⟩, hlogs, hskipped⟩ := isLog_of_discover hnames h
  obtain ⟨hdisk, hresult, hevents⟩ := processDirectory_of_discover .csv h
  obtain ⟨done, hcourse, hafter, hdone⟩ :=
    course_processLogs hnames hleads hlogs (after_nil hnames location)
  refine ⟨done, leaves_of_after hleads hlogs ?_ ?_ ?_⟩
  · rw [hresult]
    exact hcourse
  · rw [hdisk]
    exact hafter
  · rw [hevents, hskipped, hdone]
    rfl

/-- A batch of tables goes up to the first log that cannot be turned into its table, or to the end.
Each log is read as it was at the start, and only the tables of the logs before the failure are
written. -/
theorem processDirectory_leaves (disk : Disk) (directory : Path)
    (hnames : disk.WellNamed) :
    let outcome := processDirectory .csv disk directory
    (∀ events failure, discover disk directory = (events, .error failure) →
        outcome = ⟨disk, events, .error failure⟩) ∧
      ∀ events logs, discover disk directory = (events, .ok logs) →
        ∃ done, Leaves disk logs done outcome := by
  intro outcome
  constructor
  · intro events failure h
    simp only [outcome, processDirectory, h]
  · intro events logs h
    exact exists_leaves hnames h

theorem processDirectory_leaves_of_broken_log :
    let log := Text.encode "bench-int1-read2-hit3-A.txt".toList
    let broken := Text.encode "bench-int4-read5-hit6-B.txt".toList
    let disk : Disk := ⟨[([log], .file []), ([broken], .file (Text.encode "...".toList))], []⟩
    let directory : Path := ⟨[Path.slash]⟩
    let outcome := processDirectory .csv disk directory
    disk.WellNamed ∧
      (∃ done, Leaves disk [directory.join log, directory.join broken] done outcome) ∧
      outcome.result =
        .error (.unparsed (directory.join broken) ⟨1, .missingMarker .requests⟩) := by
  intro log broken disk directory outcome
  have hnames : disk.WellNamed := by
    constructor <;> decide +kernel
  have hlogs : discover disk directory =
      ([], .ok [directory.join log, directory.join broken]) := by
    decide +kernel
  refine ⟨hnames, ?_, ?_⟩
  · exact (processDirectory_leaves disk directory hnames).2 _ _ hlogs
  · decide +kernel

end Batch

end BenchChart
