import BenchChart.Proofs.Batch.Table
import BenchChart.Proofs.Run.Length
import BenchChart.Proofs.Text.Encoded

/-!
# Logs whose tables cannot be named

A log that can be read and parsed is turned into its table unless the name or the path of the table
is too long for the system, or a directory stands in its place. The table of a log whose marks stand
in the order of the layout is never too long; with marks missing or out of order it can be, and then
the batch ends there.
-/

namespace BenchChart

namespace Batch

variable {disk : Disk} {directory log : Path} {location : Location} {run : Run}

def tooLong (artifact : Path) : Failure := .unwritten artifact (.uncreated artifact .nameTooLong)

/-- A log that can be read and parsed, and whose table has no directory in its place. -/
structure Sound (disk : Disk) (location : Location) (log : Path) (run : Run) : Prop where
  run_eq : Run.ofPath? log = some run
  reads : ∃ text series, disk.readText log = .ok text ∧ Progress.parse text = .ok series
  vacant : disk.node? (run.artifactFile .csv :: location) ≠ some .directory

/-- The system takes the name and the path of the table. -/
structure Fits (log : Path) (run : Run) : Prop where
  name : (run.artifactFile .csv).length ≤ Disk.maxNameLength
  path : (tablePath run log).bytes.length ≤ Disk.maxPathLength

theorem getLast?_chain_tooLong (artifact : Path) :
    (tooLong artifact).chain.getLast? = some "File name too long (os error 36)" := rfl

/-- The path of a table has no bytes but those of the log's path and of what surrounds the
parameters. -/
theorem zero_not_mem_tablePath (hrun : Run.ofPath? log = some run) (hlog : 0 ∉ log.bytes) :
    0 ∉ (tablePath run log).bytes := by
  obtain ⟨parent, hparent, hpath, -, -⟩ := Run.artifactPath_beside hrun .csv
  obtain ⟨bytes, name, hbytes, hname, rfl⟩ := Run.ofPath?_eq_some_iff.1 hrun
  have hchar : '\x00' ∉ name := by
    intro hmem
    apply hlog
    apply Path.mem_of_fileName? hbytes (by decide)
    rw [← Text.encode_of_decode? hname]
    exact (Text.mem_encode_iff (by decide)).2 hmem
  have hfile : 0 ∉ (Run.ofFileName name).artifactFile .csv := by
    intro hmem
    exact Run.not_mem_artifactName (Run.takenFrom_ofFileName name) hchar .csv (by decide +kernel)
      ((Text.mem_encode_iff (by decide)).1 hmem)
  rw [tablePath, hpath]
  intro hmem
  rcases Path.mem_join hmem with hslash | hmem | hmem
  · cases hslash
  · exact hlog (Path.mem_of_parent? hparent (by decide) hmem)
  · exact hfile hmem

/-- Beside a log that a path leads to, only the length of a path can be wrong. -/
theorem check_tablePath (hrun : Run.ofPath? log = some run) (hlog : Disk.check log = .ok ()) :
    Disk.check (tablePath run log) =
      if Disk.maxPathLength < (tablePath run log).bytes.length then .error .nameTooLong
      else .ok () := by
  obtain ⟨parent, -, -, hparent, -⟩ := Run.artifactPath_beside hrun .csv
  have hlength : 0 < (tablePath run log).bytes.length :=
    Nat.zero_lt_of_lt (Path.length_lt_of_parent? hparent)
  have hempty : (tablePath run log).bytes.isEmpty = false :=
    List.isEmpty_eq_false_iff.2 (List.length_pos_iff.1 hlength)
  obtain ⟨-, hzero, -⟩ := Disk.check_eq_ok_iff.1 hlog
  have hnone : (tablePath run log).bytes.contains 0 = false := by
    simpa using zero_not_mem_tablePath hrun hzero
  rw [Disk.check, hempty, hnone, if_neg (by decide), if_neg (by decide)]

theorem child_of_fits (hrun : Run.ofPath? log = some run) (hlog : Disk.check log = .ok ())
    (h : Fits log run) :
    Disk.child (tablePath run log) (run.artifactFile .csv) location =
      .ok (run.artifactFile .csv :: location) := by
  rw [Disk.child, check_tablePath hrun hlog, if_neg (Nat.not_lt.2 h.path),
    if_neg (Nat.not_lt.2 h.name)]
  rfl

theorem child_of_not_fits (hrun : Run.ofPath? log = some run) (hlog : Disk.check log = .ok ())
    (h : ¬Fits log run) :
    Disk.child (tablePath run log) (run.artifactFile .csv) location = .error .nameTooLong := by
  rw [Disk.child, check_tablePath hrun hlog]
  by_cases hpath : Disk.maxPathLength < (tablePath run log).bytes.length
  · rw [if_pos hpath]
    rfl
  · have hname : Disk.maxNameLength < (run.artifactFile .csv).length :=
      Nat.lt_of_not_le fun hle => h ⟨hle, Nat.le_of_not_lt hpath⟩
    rw [if_neg hpath, if_pos hname]
    rfl

theorem length_tablePath_le (hrun : Run.ofPath? log = some run) {bytes : Name}
    (hbytes : log.fileName? = some bytes) :
    (tablePath run log).bytes.length + bytes.length ≤
      log.bytes.length + (run.artifactFile .csv).length := by
  obtain ⟨parent, hparent, hartifact, -, -⟩ := Run.artifactPath_beside hrun .csv
  obtain ⟨bytes', name, hbytes', hdecode, rfl⟩ := Run.ofPath?_eq_some_iff.1 hrun
  have hslash := (Path.isName_of_fileName? hbytes').noSlash
  rw [tablePath, hartifact]
  exact Path.length_join_parent_le hparent hbytes
    (Run.isName_artifactFile hslash hdecode .csv).noSlash

theorem IsLog.of_fileName? (h : IsLog directory log) {name : List Char}
    (hname : log.fileName? = some (Text.encode name)) :
    Run.isLogName name = true ∧ Path.IsName (Text.encode name) ∧
      log = directory.join (Text.encode name) ∧ Run.ofPath? log = some (Run.ofFileName name) := by
  obtain ⟨bytes, name', hbytes, hdecode, hlogName, rfl⟩ := h
  have hfile := Path.fileName?_join directory hbytes
  obtain rfl : bytes = Text.encode name := Option.some.inj (hfile.symm.trans hname)
  obtain rfl : name = name' := Text.encode_inj.1 (Text.encode_of_decode? hdecode).symm
  exact ⟨hlogName, hbytes, rfl, Run.ofPath?_eq_some_iff.2 ⟨_, name, hfile, hdecode, rfl⟩⟩

/-- A name of at most 83 bytes leaves room for that of the table, and a path that is not nearly too
long leaves room for its path. -/
theorem fits_of_short (hlog : IsLog directory log) (hrun : Run.ofPath? log = some run)
    {name : List Char} (hname : log.fileName? = some (Text.encode name))
    (hshort : (Text.encode name).length ≤ 83)
    (hpath : log.bytes.length + Disk.maxNameLength ≤ Disk.maxPathLength) : Fits log run := by
  obtain ⟨hlogName, -, -, hrun'⟩ := hlog.of_fileName? hname
  obtain rfl := Option.some.inj (hrun.symm.trans hrun')
  have hbound := (Run.length_artifactFile_bounds hlogName .csv).1
  have htable := length_tablePath_le hrun hname
  have hfile : ((Run.ofFileName name).artifactFile .csv).length ≤ Disk.maxNameLength :=
    Nat.le_trans hbound (Nat.le_trans (Nat.add_le_add_right (Nat.mul_le_mul_left 3 hshort) 6)
      (by decide))
  exact ⟨hfile, by omega⟩

section Written

variable (hleads : disk.LeadsToDirectory directory location) (hlog : IsLog directory log)
  (hrun : Run.ofPath? log = some run)

include hleads hlog hrun

/-- What writing a table beside a log depends on. -/
theorem write_table_eq {text : List Char} (hread : disk.readText log = .ok text)
    (content : List UInt8) :
    (Fits log run → disk.write (tablePath run log) content =
      if disk.node? (run.artifactFile .csv :: location) = some .directory then .error .isDirectory
      else .ok (disk.put (run.artifactFile .csv :: location) (.file content))) ∧
    (¬Fits log run → disk.write (tablePath run log) content = .error .nameTooLong) := by
  obtain ⟨place, hplace⟩ := Disk.locate_of_readText hread
  have hcheck := Disk.check_of_locate hplace
  obtain ⟨parent, hparent⟩ := exists_parent_of_isLog directory .csv
  obtain ⟨run', hrun', hartifact, hfile, hchild⟩ := hparent log hlog
  obtain rfl : run = run' := Option.some.inj (hrun.symm.trans hrun')
  have hbeside : Path.IsChild (tablePath run log) directory (run.artifactFile .csv) := by
    rw [tablePath, hartifact]
    exact hchild
  rw [Disk.write_of_isChild hleads hfile hbeside]
  constructor
  · intro hfits
    rw [child_of_fits hrun hcheck hfits]
    rfl
  · intro hfits
    rw [child_of_not_fits hrun hcheck hfits]
    rfl

/-- Marks in order leave room for the table of a log that can be read. -/
theorem fits_of_inOrder {text : List Char} (hread : disk.readText log = .ok text)
    {name : List Char} (hname : log.fileName? = some (Text.encode name))
    (horder : Run.InOrder name) : Fits log run := by
  obtain ⟨place, hplace⟩ := Disk.locate_of_readText hread
  obtain ⟨-, -, hpath⟩ := Disk.check_eq_ok_iff.1 (Disk.check_of_locate hplace)
  obtain ⟨hlogName, hbytes, hjoin, hrun'⟩ := hlog.of_fileName? hname
  obtain rfl := Option.some.inj (hrun.symm.trans hrun')
  have hchild := Path.isChild_join directory hbytes.noSlash
  rw [← hjoin] at hchild
  have hlength := Disk.length_le_of_child
    ((Disk.locate_of_isChild hleads hbytes hchild).symm.trans hplace)
  have hle := (Run.length_artifactFile_bounds hlogName .csv).2 horder
  have htable := length_tablePath_le hrun hname
  exact ⟨Nat.le_trans hle hlength, by omega⟩

end Written

section Log

variable (hleads : disk.LeadsToDirectory directory location)
  (hlog : IsLog directory log) (hsound : Sound disk location log run)

include hleads hlog hsound

theorem processLog_of_fits (hfits : Fits log run) :
    (processLog .csv disk log).result = .ok (tablePath run log) := by
  obtain ⟨hrun, ⟨text, series, hread, hparse⟩, hvacant⟩ := hsound
  have hwrite := (write_table_eq hleads hlog hrun hread (tableBytes series)).1 hfits
  rw [if_neg hvacant] at hwrite
  have hwritten : Artifact.Writer.csv.write disk series (tablePath run log) run = .ok _ :=
    (write_table disk series _ run).trans (congrArg _ hwrite)
  exact congrArg Outcome.result (processLog_of_written hrun hread hparse hwritten)

/-- A log whose table is too long fails for that alone, and leaves the disk as it was. -/
theorem processLog_of_not_fits (hfits : ¬Fits log run) :
    (processLog .csv disk log).result = .error (tooLong (tablePath run log)) ∧
      (processLog .csv disk log).disk = disk := by
  obtain ⟨hrun, ⟨text, series, hread, hparse⟩, -⟩ := hsound
  have hwrite := (write_table_eq hleads hlog hrun hread (tableBytes series)).2 hfits
  have hfault : Artifact.Writer.csv.write disk series (tablePath run log) run = .error _ :=
    (write_table disk series _ run).trans (congrArg _ hwrite)
  have hstep := processLog_of_unwritten hrun hread hparse hfault
  rw [hstep]
  exact ⟨rfl, rfl⟩

end Log

section Fails

variable (hleads : disk.LeadsToDirectory directory location) (hlog : IsLog directory log)

include hleads hlog

theorem not_fails_of_fits (hsound : Sound disk location log run) (hfits : Fits log run)
    (failure : Failure) : ¬Fails disk log failure := by
  obtain ⟨hrun, ⟨text, series, hread, hparse⟩, hvacant⟩ := hsound
  rintro (hunread | ⟨hread', hunparsed⟩ | ⟨hrun', hread', hparse', hunwritten⟩)
  · rw [hread] at hunread
    cases hunread
  · obtain rfl := Except.ok.inj (hread.symm.trans hread')
    rw [hparse] at hunparsed
    cases hunparsed
  · obtain rfl := Option.some.inj (hrun.symm.trans hrun')
    rw [(write_table_eq hleads hlog hrun hread' _).1 hfits, if_neg hvacant] at hunwritten
    cases hunwritten

theorem not_fits_of_fails {artifact : Path} (h : Fails disk log (tooLong artifact)) :
    ∃ run, Run.ofPath? log = some run ∧ artifact = tablePath run log ∧ ¬Fits log run := by
  cases h with
  | unwritten hrun hread hparse hunwritten =>
      refine ⟨_, hrun, rfl, fun hfits => ?_⟩
      rw [(write_table_eq hleads hlog hrun hread _).1 hfits] at hunwritten
      split at hunwritten <;> cases hunwritten

end Fails

theorem processDirectory_of_first {writer : Artifact.Writer} {events : List Event}
    {rest : List Path} {failure : Failure}
    (hdiscover : discover disk directory = (events, .ok (log :: rest)))
    (hfirst : (processLog writer disk log).result = .error failure) :
    (processDirectory writer disk directory).result = .error failure ∧
      (processDirectory writer disk directory).disk = (processLog writer disk log).disk := by
  obtain ⟨hdisk, hresult, -⟩ := processDirectory_of_discover writer hdiscover
  rw [processLogs_cons_of_error hfirst] at hdisk hresult
  exact ⟨hresult, hdisk⟩

section Empty

variable {name : List Char} (hslash : Path.slash ∉ Text.encode name)
  (hname : Run.isLogName name = true)

include hslash hname

theorem isLog_join (directory : Path) : IsLog directory (directory.join (Text.encode name)) :=
  have hdecode := Text.decode?_encode name
  ⟨_, name, Run.isName_of_isLogName hslash hdecode hname, hdecode, hname, rfl⟩

/-- On a disk that holds only files, an empty log is sound. -/
theorem sound_of_empty (location : Location)
    (hread : disk.readText (directory.join (Text.encode name)) = .ok [])
    (hfiles : ∀ entry ∈ disk.entries, entry.2 ≠ .directory) :
    Sound disk location (directory.join (Text.encode name)) (Run.ofFileName name) := by
  have hbytes := Run.isName_of_isLogName hslash (Text.decode?_encode name) hname
  refine ⟨?_, ⟨[], Series.empty, hread, Progress.parse_nil⟩, fun hnode => ?_⟩
  · exact ((isLog_join hslash hname directory).of_fileName? (Path.fileName?_join _ hbytes)).2.2.2
  · rw [Disk.node?, if_neg (List.cons_ne_nil _ _)] at hnode
    exact hfiles _ (Entries.mem_of_lookup hnode) rfl

end Empty

/-- How the lengths of names decide on logs that are sound otherwise, in every directory.

1. The name of an artifact has at most three times as many bytes as that of its log and six more; if
   the marks stand in order it has no more than that of the log.
2. A log is turned into its table if the name and the path of the table are not too long, and else
   fails for that and leaves the disk as it was. They are not too long if the marks stand in order,
   or if the name has at most 83 bytes and the path is not nearly too long itself.
3. A batch of logs whose tables all fit comes to its end, and one that ends at a table that is too
   long ends at a log whose table does not fit. -/
theorem tables_by_length {disk : Disk} {directory : Path}
    {location : Location} (hnames : disk.WellNamed)
    (hleads : disk.LeadsToDirectory directory location) :
    (∀ name, Run.isLogName name = true → ∀ format,
      ((Run.ofFileName name).artifactFile format).length ≤ 3 * (Text.encode name).length + 6 ∧
        (Run.InOrder name →
          ((Run.ofFileName name).artifactFile format).length ≤ (Text.encode name).length)) ∧
      (∀ log run, IsLog directory log → Sound disk location log run →
        let step := processLog .csv disk log
        (Fits log run → step.result = .ok (tablePath run log)) ∧
          (¬Fits log run →
            step.result = .error (tooLong (tablePath run log)) ∧ step.disk = disk) ∧
          ∀ name, log.fileName? = some (Text.encode name) →
            (Run.InOrder name → Fits log run) ∧
              ((Text.encode name).length ≤ 83 →
                log.bytes.length + Disk.maxNameLength ≤ Disk.maxPathLength → Fits log run)) ∧
      ∀ events logs, discover disk directory = (events, .ok logs) →
        let outcome := processDirectory .csv disk directory
        ((∀ log ∈ logs, ∃ run, Sound disk location log run ∧ Fits log run) →
            ∃ artifacts, outcome.result = .ok artifacts) ∧
          ∀ artifact, outcome.result = .error (tooLong artifact) →
            ∃ log ∈ logs, ∃ run, Run.ofPath? log = some run ∧ artifact = tablePath run log ∧
              ¬Fits log run := by
  refine ⟨fun name hname => Run.length_artifactFile_bounds hname, ?_, ?_⟩
  · intro log run hlog hsound step
    obtain ⟨text, series, hread, -⟩ := hsound.reads
    exact ⟨processLog_of_fits hleads hlog hsound,
      processLog_of_not_fits hleads hlog hsound, fun name hname =>
        ⟨fits_of_inOrder hleads hlog hsound.run_eq hread hname,
          fits_of_short hlog hsound.run_eq hname⟩⟩
  · intro events logs hdiscover outcome
    obtain ⟨-, hlogs, -⟩ := isLog_of_discover hnames hdiscover
    obtain ⟨done, hleaves⟩ := exists_leaves hnames hdiscover
    have hcourse : Course disk logs done outcome.result := hleaves.course
    generalize outcome.result = result at hcourse
    cases hcourse with
    | complete => exact ⟨fun _ => ⟨_, rfl⟩, fun _ h => by cases h⟩
    | stopped _ rest failed =>
        rename_i log failure
        have hmem : log ∈ done.map Rendering.log ++ log :: rest := by simp
        refine ⟨fun hall => ?_, fun artifact hresult => ?_⟩
        · obtain ⟨run, hsound, hfits⟩ := hall log hmem
          exact absurd failed (not_fails_of_fits hleads (hlogs log hmem) hsound hfits failure)
        · rw [Except.error.inj hresult] at failed
          exact ⟨log, hmem, not_fits_of_fails hleads (hlogs log hmem) failed⟩

theorem tables_by_length_of_long_names :
    let odd := Run.unmarked 73
    let full := "bench-int1-read2-hit3-".toList ++ List.replicate 229 'x' ++ ".txt".toList
    let long := Run.unmarked 74
    let disk : Disk := ⟨[([Text.encode odd], .file []), ([Text.encode full], .file [])], []⟩
    let other : Disk := ⟨[([Text.encode long], .file [])], []⟩
    let directory : Path := ⟨[Path.slash]⟩
    let log (name : List Char) := directory.join (Text.encode name)
    let table (name : List Char) := tablePath (Run.ofFileName name) (log name)
    let writer := Artifact.Writer.csv
    disk.WellNamed ∧ other.WellNamed ∧ disk.LeadsToDirectory directory [] ∧
      other.LeadsToDirectory directory [] ∧ (Text.encode odd).length = 83 ∧ Run.InOrder full ∧
      (∀ format, ((Run.ofFileName full).artifactFile format).length ≤ (Text.encode full).length) ∧
      (∀ name ∈ [odd, full], (processLog writer disk (log name)).result = .ok (table name)) ∧
      (∃ artifacts, (processDirectory writer disk directory).result = .ok artifacts) ∧
      (processLog writer other (log long)).result = .error (tooLong (table long)) ∧
      (processLog writer other (log long)).disk = other := by
  intro odd full long disk other directory log table writer
  have hnames : disk.WellNamed := by constructor <;> decide +kernel
  have hothers : other.WellNamed := by constructor <;> decide +kernel
  have hodd : (Text.encode odd).length = 83 := by
    rw [Text.length_encode, Run.byteLength_unmarked]
  have hlong : (Text.encode long).length = 84 := by
    rw [Text.length_encode, Run.byteLength_unmarked]
  have horder : Run.InOrder full := by constructor <;> decide +kernel
  have hleads : disk.LeadsToDirectory directory [] := ⟨rfl, rfl⟩
  have hothersLead : other.LeadsToDirectory directory [] := ⟨rfl, rfl⟩
  have hname : ∀ name ∈ [odd, full, long], Run.isLogName name = true ∧
      Path.slash ∉ Text.encode name ∧ (log name).fileName? = some (Text.encode name) := by
    decide +kernel
  have hread : ∀ name ∈ [odd, full], disk.readText (log name) = .ok [] := by decide +kernel
  have hsound : ∀ name ∈ [odd, full], IsLog directory (log name) ∧
      Sound disk [] (log name) (Run.ofFileName name) := by
    intro name hmem
    obtain ⟨hlogName, hslash, -⟩ := hname name (List.mem_append_left [long] hmem)
    exact ⟨isLog_join hslash hlogName directory,
      sound_of_empty hslash hlogName [] (hread name hmem) (by decide +kernel)⟩
  obtain ⟨hbounds, hstep, hbatch⟩ := tables_by_length hnames hleads
  obtain ⟨-, hstepOther, -⟩ := tables_by_length hothers hothersLead
  have hfits : ∀ name ∈ [odd, full], Fits (log name) (Run.ofFileName name) := by
    intro name hmem
    obtain ⟨-, -, hfile⟩ := hname name (List.mem_append_left [long] hmem)
    obtain ⟨hlog, hlogSound⟩ := hsound name hmem
    obtain ⟨horderFits, hshortFits⟩ := (hstep _ _ hlog hlogSound).2.2 name hfile
    rcases List.mem_pair.1 hmem with rfl | rfl
    · exact hshortFits (Nat.le_of_eq hodd) (by decide +kernel)
    · exact horderFits horder
  have htooLong : ¬Fits (log long) (Run.ofFileName long) := fun h => by
    have hle := h.name
    rw [Run.length_artifactFile_unmarked, hlong] at hle
    exact absurd hle (by decide)
  have hdiscover : discover disk directory = ([], .ok [log odd, log full]) := by decide +kernel
  obtain ⟨hlongName, hlongSlash, -⟩ := hname long (by simp)
  have hlongStep := hstepOther _ _ (isLog_join hlongSlash hlongName directory)
    (sound_of_empty hlongSlash hlongName [] (by decide +kernel) (by decide +kernel))
  refine ⟨hnames, hothers, hleads, hothersLead, hodd, horder, fun format =>
    (hbounds full (hname full (by simp)).1 format).2 horder, ?_, ?_, hlongStep.2.1 htooLong⟩
  · intro name hmem
    obtain ⟨hlog, hlogSound⟩ := hsound name hmem
    exact (hstep _ _ hlog hlogSound).1 (hfits name hmem)
  · refine (hbatch _ _ hdiscover).1 fun path hmem => ?_
    obtain ⟨name, hpair, rfl⟩ := List.mem_map.1 (show path ∈ [odd, full].map log from hmem)
    exact ⟨_, (hsound name hpair).2, hfits name hpair⟩

/-- A name with none of the marks that has 84 bytes leaves no room for the name of its artifact in
either format, and ends the batch before the log that comes after it. -/
theorem table_too_long_without_marks :
    let name := Run.unmarked 74
    let other := "bench-int1-read2-hit3-A.txt".toList
    let disk : Disk :=
      ⟨[([Text.encode name], .file []), ([Text.encode other], .file [])], []⟩
    let directory : Path := ⟨[Path.slash]⟩
    let log := directory.join (Text.encode name)
    let artifact := tablePath (Run.ofFileName name) log
    let outcome := processDirectory .csv disk directory
    Run.isLogName name = true ∧ (Text.encode name).length = 84 ∧ Path.slash ∉ Text.encode name ∧
      0 ∉ Text.encode name ∧ disk.readText log = .ok [] ∧ Progress.parse [] = .ok Series.empty ∧
      (∀ format, ((Run.ofFileName name).artifactFile format).length = 258) ∧
      outcome.result = .error (tooLong artifact) ∧
      (tooLong artifact).chain.getLast? = some "File name too long (os error 36)" ∧
      outcome.disk = disk := by
  intro name other disk directory log artifact outcome
  have hname := Run.isLogName_unmarked 74
  have hlength : (Text.encode name).length = 84 := by
    rw [Text.length_encode, Run.byteLength_unmarked]
  have hartifact : ∀ format, ((Run.ofFileName name).artifactFile format).length = 258 := by
    intro format
    rw [Run.length_artifactFile_unmarked, hlength]
  have hfits : ¬Fits log (Run.ofFileName name) := fun hfits => by
    have hle := hfits.name
    rw [hartifact] at hle
    exact absurd hle (by decide)
  have hslash : Path.slash ∉ Text.encode name := by decide +kernel
  have hread : disk.readText log = .ok [] := by decide +kernel
  have hsound := sound_of_empty hslash hname [] hread (by decide +kernel)
  obtain ⟨hresult, hdisk⟩ := processLog_of_not_fits ⟨rfl, rfl⟩
    (isLog_join hslash hname directory) hsound hfits
  have hdiscover : discover disk directory =
      ([], .ok [log, directory.join (Text.encode other)]) := by
    decide +kernel
  obtain ⟨hbatchResult, hbatchDisk⟩ := processDirectory_of_first hdiscover hresult
  rw [hdisk] at hbatchDisk
  exact ⟨hname, hlength, hslash, by decide +kernel, hread, Progress.parse_nil, hartifact,
    hbatchResult, getLast?_chain_tooLong artifact, hbatchDisk⟩

end Batch

end BenchChart
