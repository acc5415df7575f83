import BenchChart.Proofs.Run
import BenchChart.Proofs.Text.Offset

/-!
# Reading parameters off a name that was made of them

The name of a log is made of its parameters and the marks between them. Each mark but the one before
the mode is looked for from the start of the name, so the parameters are read back if none of them
holds the mark that ends it, or one that is looked for later. `Found` says where each mark is found:
where it was put, or before that, inside a parameter. Comparing the lengths of the texts between the
marks then tells that no other parameters are read back.
-/

namespace BenchChart

namespace Run

def logName (run : Run) : List Char := (run.artifactName "txt").toList

/-- The parameters hold no mark that would be taken for one after them. -/
structure Readable (run : Run) : Prop where
  intensity_read : ¬ readMark <:+: run.intensity.toList
  intensity_hit : ¬ hitMark <:+: run.intensity.toList
  readPercentage_hit : ¬ hitMark <:+: run.readPercentage.toList
  mode_dash : '-' ∉ run.mode.toList
  /-- An empty mode is read wherever the name seems to end. -/
  noEnd : run.mode = "" ∨
    ∀ text ∈ [run.intensity, run.readPercentage, run.hitRatio, run.mode], ¬ logEnd <:+: text.toList

/-- What stands in the name of every log before its first mark. -/
def opening : List Char := "bench".toList

/-- What stands in the name of the log before the mark of the read percentage. -/
def beforeRead (run : Run) : List Char := opening ++ intensityMark ++ run.intensity.toList

def beforeHit (run : Run) : List Char := run.beforeRead ++ readMark ++ run.readPercentage.toList

def beforeMode (run : Run) : List Char := run.beforeHit ++ hitMark ++ run.hitRatio.toList

def beforeEnd (run : Run) : List Char := run.beforeMode ++ modeMark ++ run.mode.toList

theorem logName_eq (run : Run) : run.logName = run.beforeEnd ++ logEnd := by
  rw [logName, toList_artifactName]
  have hstart : "bench-int".toList = opening ++ intensityMark := by decide +kernel
  have hend : logEnd = ".".toList ++ "txt".toList := by decide +kernel
  simp only [beforeEnd, beforeMode, beforeHit, beforeRead, hstart, hend, List.append_assoc]
  rfl

theorem intensityMark_eq : intensityMark = '-' :: "int".toList := by decide +kernel

theorem readMark_eq : readMark = '-' :: "read".toList := by decide +kernel

theorem hitMark_eq : hitMark = '-' :: "hit".toList := by decide +kernel

theorem modeMark_eq : modeMark = ['-'] := by decide +kernel

theorem logEnd_eq : logEnd = '.' :: "txt".toList := by decide +kernel

/-- A literal in a marked field is one in the field, or it stands before the mark. -/
theorem infix_marked_iff {c : Char} {tail word : List Char} (htail : '-' ∉ tail) (hword : c ∉ word)
    {field : List Char} (hmark : ¬ c :: tail <+: '-' :: (word ++ field)) (front : List Char) :
    c :: tail <:+: front ++ '-' :: word ++ field ↔
      c :: tail <:+: front ∨ c :: tail <:+: field := by
  rw [List.append_assoc, List.cons_append, Text.infix_append_cons_iff htail, List.infix_cons_iff,
    or_iff_right hmark, Text.infix_append_iff_of_not_mem hword]

theorem readMark_infix_beforeRead_iff (run : Run) :
    readMark <:+: run.beforeRead ↔ readMark <:+: run.intensity.toList := by
  have hbench : ¬ '-' :: "read".toList <:+: opening := by decide +kernel
  rw [beforeRead, intensityMark_eq, readMark_eq,
    infix_marked_iff (by simp) (by simp) (by simp [List.cons_prefix_cons]),
    or_iff_right hbench]

theorem hitMark_infix_beforeHit_iff (run : Run) :
    hitMark <:+: run.beforeHit ↔
      hitMark <:+: run.intensity.toList ∨ hitMark <:+: run.readPercentage.toList := by
  have hbench : ¬ '-' :: "hit".toList <:+: opening := by decide +kernel
  rw [beforeHit, beforeRead, intensityMark_eq, readMark_eq, hitMark_eq,
    infix_marked_iff (by simp) (by simp) (by simp [List.cons_prefix_cons]),
    infix_marked_iff (by simp) (by simp) (by simp [List.cons_prefix_cons]),
    or_iff_right hbench]

theorem logEnd_infix_beforeEnd_iff (run : Run) :
    logEnd <:+: run.beforeEnd ↔
      ∃ text ∈ [run.intensity, run.readPercentage, run.hitRatio, run.mode],
        logEnd <:+: text.toList := by
  have hbench : ¬ '.' :: "txt".toList <:+: opening := by decide +kernel
  have hmark : ∀ rest, ¬ '.' :: "txt".toList <+: '-' :: rest := by simp [List.cons_prefix_cons]
  rw [beforeEnd, beforeMode, beforeHit, beforeRead, intensityMark_eq, readMark_eq, hitMark_eq,
    modeMark_eq, logEnd_eq, infix_marked_iff (by simp) List.not_mem_nil (hmark _),
    infix_marked_iff (by simp) (by simp) (hmark _),
    infix_marked_iff (by simp) (by simp) (hmark _),
    infix_marked_iff (by simp) (by simp) (hmark _), or_iff_right hbench]
  simp only [List.mem_cons, List.not_mem_nil, or_false, exists_eq_or_imp, exists_eq_left, or_assoc]

/-- What stands before the marks in the name of the log where they are found. -/
structure Found (run : Run) (read hit mode stop : List Char) : Prop where
  intensity_eq : (ofFileName run.logName).intensity.toList = Text.slice run.logName
    (Text.byteLength (opening ++ intensityMark)) (Text.byteLength read)
  readPercentage_eq : (ofFileName run.logName).readPercentage.toList = Text.slice run.logName
    (Text.byteLength (read ++ readMark)) (Text.byteLength hit)
  hitRatio_eq : (ofFileName run.logName).hitRatio.toList = Text.slice run.logName
    (Text.byteLength (hit ++ hitMark)) (Text.byteLength mode)
  mode_eq : (ofFileName run.logName).mode.toList = Text.slice run.logName
    (Text.byteLength (mode ++ modeMark)) (Text.byteLength stop)
  read_begins : read ++ readMark <+: run.logName
  hit_begins : hit ++ hitMark <+: run.logName
  mode_begins : mode ++ modeMark <+: run.logName
  stop_begins : stop ++ logEnd <+: run.logName
  read_cases : readMark <:+: run.beforeRead ∧
      Text.byteLength (read ++ readMark) ≤ Text.byteLength run.beforeRead ∨
    ¬ readMark <:+: run.beforeRead ∧ read = run.beforeRead
  hit_cases : hitMark <:+: run.beforeHit ∧
      Text.byteLength (hit ++ hitMark) ≤ Text.byteLength run.beforeHit ∨
    ¬ hitMark <:+: run.beforeHit ∧ hit = run.beforeHit
  mode_cases : '-' ∈ run.mode.toList ∧
      Text.byteLength (run.beforeMode ++ modeMark) ≤ Text.byteLength mode ∨
    '-' ∉ run.mode.toList ∧ mode = run.beforeMode
  stop_cases : logEnd <:+: run.beforeEnd ∧
      Text.byteLength (stop ++ logEnd) ≤ Text.byteLength run.beforeEnd ∨
    ¬ logEnd <:+: run.beforeEnd ∧ stop = run.beforeEnd

theorem exists_found (run : Run) : ∃ read hit mode stop, Found run read hit mode stop := by
  have hend : run.beforeEnd ++ logEnd <+: run.logName := ⟨[], by rw [logName_eq, List.append_nil]⟩
  have hmode : run.beforeMode ++ modeMark <+: run.logName :=
    (List.prefix_append _ run.mode.toList).trans ((List.prefix_append _ logEnd).trans hend)
  have hhit : run.beforeHit ++ hitMark <+: run.logName :=
    (List.prefix_append _ run.hitRatio.toList).trans ((List.prefix_append _ modeMark).trans hmode)
  have hread : run.beforeRead ++ readMark <+: run.logName :=
    (List.prefix_append _ run.readPercentage.toList).trans
      ((List.prefix_append _ hitMark).trans hhit)
  have hintensity : opening ++ intensityMark <+: run.logName :=
    (List.prefix_append _ run.intensity.toList).trans ((List.prefix_append _ readMark).trans hread)
  obtain ⟨bench, hbenchOffset, _, ⟨hoccurs, _⟩ | ⟨_, rfl⟩⟩ :=
    Text.offsetOf_cases (by decide +kernel) hintensity
  · exact absurd hoccurs (by decide +kernel)
  obtain ⟨read, hreadOffset, hreadBegins, hreadCases⟩ :=
    Text.offsetOf_cases (by decide +kernel) hread
  obtain ⟨hit, hhitOffset, hhitBegins, hhitCases⟩ :=
    Text.offsetOf_cases (by decide +kernel) hhit
  obtain ⟨stop, hstopOffset, hstopBegins, hstopCases⟩ :=
    Text.offsetOf_cases (by decide +kernel) hend
  obtain ⟨mode, hmodeOffset, hmodeBegins, hmodeCases⟩ :=
    Text.lastOffsetOf_cases '-' run.beforeMode (run.mode.toList ++ logEnd)
  -- The dash is looked for from the end, where it comes after the mode only if the mode has one.
  have hdash : '-' ∈ run.mode.toList ++ logEnd ↔ '-' ∈ run.mode.toList := by
    have hnone : '-' ∉ logEnd := by decide +kernel
    simp [hnone]
  have hlast : run.beforeMode ++ '-' :: (run.mode.toList ++ logEnd) = run.logName := by
    rw [logName_eq, beforeEnd, modeMark_eq]
    simp
  rw [hlast, ← modeMark_eq] at hmodeOffset hmodeBegins
  rw [hdash, ← modeMark_eq] at hmodeCases
  refine ⟨read, hit, mode, stop, ?_, ?_, ?_, ?_, hreadBegins, hhitBegins, hmodeBegins, hstopBegins,
    hreadCases, hhitCases, hmodeCases, hstopCases⟩
  all_goals
    simp only [ofFileName, String.toList_ofList, hbenchOffset, hreadOffset, hhitOffset, hmodeOffset,
      hstopOffset, Text.byteLength_append]
    rfl

theorem byteLength_beforeHit (run : Run) : Text.byteLength run.beforeHit =
    Text.byteLength (run.beforeRead ++ readMark) + Text.byteLength run.readPercentage.toList :=
  Text.byteLength_append ..

theorem byteLength_beforeMode (run : Run) : Text.byteLength run.beforeMode =
    Text.byteLength (run.beforeHit ++ hitMark) + Text.byteLength run.hitRatio.toList :=
  Text.byteLength_append ..

theorem byteLength_beforeEnd (run : Run) : Text.byteLength run.beforeEnd =
    Text.byteLength (run.beforeMode ++ modeMark) + Text.byteLength run.mode.toList :=
  Text.byteLength_append ..

namespace Found

variable {run : Run} {read hit mode stop : List Char}

theorem byteLength_readPercentage (h : run.Found read hit mode stop) :
    Text.byteLength (ofFileName run.logName).readPercentage.toList =
      Text.byteLength hit - Text.byteLength (read ++ readMark) := by
  rw [h.readPercentage_eq,
    Text.byteLength_slice h.read_begins ((List.prefix_append ..).trans h.hit_begins)]

theorem byteLength_hitRatio (h : run.Found read hit mode stop) :
    Text.byteLength (ofFileName run.logName).hitRatio.toList =
      Text.byteLength mode - Text.byteLength (hit ++ hitMark) := by
  rw [h.hitRatio_eq,
    Text.byteLength_slice h.hit_begins ((List.prefix_append ..).trans h.mode_begins)]

theorem byteLength_mode (h : run.Found read hit mode stop) :
    Text.byteLength (ofFileName run.logName).mode.toList =
      Text.byteLength stop - Text.byteLength (mode ++ modeMark) := by
  rw [h.mode_eq,
    Text.byteLength_slice h.mode_begins ((List.prefix_append ..).trans h.stop_begins)]

end Found

theorem readable_of_ofFileName {run : Run} (h : ofFileName run.logName = run) : run.Readable := by
  obtain ⟨read, hit, mode, stop, hfound⟩ := exists_found run
  have hreadLength := hfound.byteLength_readPercentage
  have hhitLength := hfound.byteLength_hitRatio
  have hmodeLength := hfound.byteLength_mode
  rw [h, Text.byteLength_append] at hreadLength hhitLength hmodeLength
  have hbeforeHit := run.byteLength_beforeHit
  have hbeforeMode := run.byteLength_beforeMode
  have hbeforeEnd := run.byteLength_beforeEnd
  rw [Text.byteLength_append] at hbeforeHit hbeforeMode hbeforeEnd
  have hreadMark : 0 < Text.byteLength readMark := by decide +kernel
  have hhitMark : 0 < Text.byteLength hitMark := by decide +kernel
  have hmodeMark : 0 < Text.byteLength modeMark := by decide +kernel
  have hlogEnd : 0 < Text.byteLength logEnd := by decide +kernel
  have hreadLe : Text.byteLength read ≤ Text.byteLength run.beforeRead := by
    rcases hfound.read_cases with ⟨_, hle⟩ | ⟨_, rfl⟩
    · rw [Text.byteLength_append] at hle
      omega
    · exact Nat.le_refl _
  -- Were the mark of the hit ratio found too early, the hit ratio read back would be too long.
  have hhit : ¬ hitMark <:+: run.beforeHit ∧ hit = run.beforeHit := by
    rcases hfound.hit_cases with ⟨_, hle⟩ | hhit
    · rw [Text.byteLength_append] at hle
      rcases hfound.mode_cases with ⟨_, hmode⟩ | ⟨_, rfl⟩
      · rw [Text.byteLength_append] at hmode
        omega
      · omega
    · exact hhit
  have hmode : '-' ∉ run.mode.toList ∧ mode = run.beforeMode := by
    rcases hfound.mode_cases with ⟨_, hle⟩ | hmode
    · rw [Text.byteLength_append] at hle
      rw [hhit.2] at hhitLength
      omega
    · exact hmode
  have hread : ¬ readMark <:+: run.beforeRead := by
    rcases hfound.read_cases with ⟨_, hle⟩ | ⟨hread, _⟩
    · rw [hhit.2] at hreadLength
      rw [Text.byteLength_append] at hle
      omega
    · exact hread
  rw [readMark_infix_beforeRead_iff] at hread
  have hnoHit := hhit.1
  rw [hitMark_infix_beforeHit_iff, not_or] at hnoHit
  refine ⟨hread, hnoHit.1, hnoHit.2, hmode.1, ?_⟩
  rcases hfound.stop_cases with ⟨_, hle⟩ | ⟨hstop, _⟩
  · left
    rw [Text.byteLength_append] at hle
    rw [hmode.2] at hmodeLength
    have hzero : Text.byteLength run.mode.toList = 0 := by omega
    exact String.toList_eq_nil_iff.1 (Text.byteLength_eq_zero_iff.1 hzero)
  · right
    intro text htext hoccurs
    exact hstop (logEnd_infix_beforeEnd_iff run |>.2 ⟨text, htext, hoccurs⟩)

theorem eq_of_toList {run other : Run} (hintensity : run.intensity.toList = other.intensity.toList)
    (hread : run.readPercentage.toList = other.readPercentage.toList)
    (hhit : run.hitRatio.toList = other.hitRatio.toList)
    (hmode : run.mode.toList = other.mode.toList) : run = other := by
  cases run
  cases other
  simp_all [String.toList_inj]

theorem ofFileName_logName {run : Run} (h : run.Readable) : ofFileName run.logName = run := by
  obtain ⟨read, hit, mode, stop, hfound⟩ := exists_found run
  have hread : read = run.beforeRead := by
    rcases hfound.read_cases with ⟨hoccurs, _⟩ | ⟨_, hread⟩
    · exact absurd ((readMark_infix_beforeRead_iff run).1 hoccurs) h.intensity_read
    · exact hread
  have hhit : hit = run.beforeHit := by
    rcases hfound.hit_cases with ⟨hoccurs, _⟩ | ⟨_, hhit⟩
    · exact ((hitMark_infix_beforeHit_iff run).1 hoccurs).elim (absurd · h.intensity_hit)
        (absurd · h.readPercentage_hit)
    · exact hhit
  have hmode : mode = run.beforeMode := by
    rcases hfound.mode_cases with ⟨hdash, _⟩ | ⟨_, hmode⟩
    · exact absurd hdash h.mode_dash
    · exact hmode
  subst hread hhit hmode
  have hbeforeHit : run.beforeHit <+: run.logName := (List.prefix_append ..).trans hfound.hit_begins
  have hbeforeMode : run.beforeMode <+: run.logName :=
    (List.prefix_append ..).trans hfound.mode_begins
  have hbeforeRead : run.beforeRead <+: run.logName :=
    (List.prefix_append ..).trans hfound.read_begins
  apply eq_of_toList
  · rw [hfound.intensity_eq]
    exact Text.slice_of_isPrefix hbeforeRead
  · rw [hfound.readPercentage_eq]
    exact Text.slice_of_isPrefix hbeforeHit
  · rw [hfound.hitRatio_eq]
    exact Text.slice_of_isPrefix hbeforeMode
  · rcases hfound.stop_cases with ⟨hoccurs, hle⟩ | ⟨_, rfl⟩
    · obtain ⟨text, htext, hoccurs⟩ := (logEnd_infix_beforeEnd_iff run).1 hoccurs
      have hempty : run.mode = "" := h.noEnd.resolve_right fun hnone => hnone text htext hoccurs
      have hlength := hfound.byteLength_mode
      have hbeforeEnd := run.byteLength_beforeEnd
      rw [Text.byteLength_append] at hle
      rw [hempty, String.toList_empty, Text.byteLength_nil] at hbeforeEnd
      rw [hempty, String.toList_empty, ← Text.byteLength_eq_zero_iff, hlength]
      omega
    · rw [hfound.mode_eq]
      exact Text.slice_of_isPrefix ((List.prefix_append ..).trans hfound.stop_begins)

/-- Parameters are read off the name that was made of them if and only if they are readable. The
names that are made again of what is read off them are thus those made of readable parameters. -/
theorem ofFileName_logName_iff :
    (∀ run : Run, ofFileName run.logName = run ↔ run.Readable) ∧
      ∀ name : List Char, (ofFileName name).logName = name ↔
        ∃ run : Run, run.Readable ∧ name = run.logName := by
  have hread : ∀ run : Run, ofFileName run.logName = run ↔ run.Readable :=
    fun run => ⟨readable_of_ofFileName, ofFileName_logName⟩
  refine ⟨hread, fun name => ⟨?_, ?_⟩⟩
  · intro hname
    refine ⟨ofFileName name, (hread _).1 ?_, hname.symm⟩
    rw [hname]
  · rintro ⟨run, hreadable, hname⟩
    rw [hname, (hread run).2 hreadable]

end Run

end BenchChart
