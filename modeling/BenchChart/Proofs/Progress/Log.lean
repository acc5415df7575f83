import BenchChart.Progress.Log
import BenchChart.Proofs.Series
import BenchChart.Proofs.Text.Lines

/-!
# The course of reading a log

Only the progress lines of a log matter, with their numbers among all lines. `Course` says how
reading them goes: through all of them, or up to the first one that gives no sample. Either way the
reports are those of the samples read so far. `Course.cons` is what one line adds, and
`course_readLines` follows a log line by line.
-/

namespace BenchChart

namespace Progress

/-- What a progress line gives, the blanks at its ends left out. -/
def reading (line : List Char) : Except Fault Sample := readLine (Text.trim line)

/-- The progress lines among lines of which the first has the number `n`, with their numbers. -/
def progressLinesFrom (n : Nat) (lines : List (List Char)) : List (List Char × Nat) :=
  (lines.zipIdx n).filter fun entry => isProgressLine entry.1

/-- The progress lines of a log, each with its number among all lines. -/
def progressLines (text : List Char) : List (List Char × Nat) :=
  progressLinesFrom 1 (Text.lines text)

def reports (entries : List (List Char × Nat)) (samples : List Sample) : List Event :=
  List.zipWith (fun entry sample => .sampleRead entry.2 sample) entries samples

/-- Each line gives the sample at its place. -/
def Gives (entries : List (List Char × Nat)) (samples : List Sample) : Prop :=
  entries.map (fun entry => reading entry.1) = samples.map .ok

/-- How reading progress lines goes: what is reported and what comes of it. -/
inductive Course (entries : List (List Char × Nat)) :
    List Event → Except Error (List Sample) → Prop where
  | complete {samples : List Sample} (given : Gives entries samples) :
      Course entries (reports entries samples) (.ok samples)
  /-- A line gives no sample, and all lines before it do. -/
  | stopped {front rest : List (List Char × Nat)} {line : List Char} {n : Nat}
      {samples : List Sample} {fault : Fault} (order : entries = front ++ (line, n) :: rest)
      (given : Gives front samples) (rejected : reading line = .error fault) :
      Course entries (reports front samples) (.error ⟨n, fault⟩)

theorem progressLinesFrom_cons (n : Nat) (line : List Char) (rest : List (List Char)) :
    progressLinesFrom n (line :: rest) =
      if isProgressLine line then (line, n) :: progressLinesFrom (n + 1) rest
      else progressLinesFrom (n + 1) rest := by
  rw [progressLinesFrom, List.zipIdx_cons, List.filter_cons]
  rfl

theorem progressLinesFrom_append (n : Nat) (front back : List (List Char)) :
    progressLinesFrom n (front ++ back) =
      progressLinesFrom n front ++ progressLinesFrom (n + front.length) back := by
  rw [progressLinesFrom, List.zipIdx_append, List.filter_append]
  rfl

/-- The progress lines of a log are the lines that stand in it and start with three dots. -/
theorem mem_progressLines_iff {text line : List Char} {n : Nat} :
    (line, n) ∈ progressLines text ↔ isProgressLine line = true ∧ Text.IsLine text n line := by
  rw [progressLines, progressLinesFrom, List.mem_filter, List.mem_zipIdx_iff_le_and_getElem?_sub]
  constructor
  · rintro ⟨⟨hle, hget⟩, hline⟩
    have hn : n - 1 + 1 = n := Nat.sub_add_cancel hle
    refine ⟨hline, ?_⟩
    rw [← hn]
    exact Text.getElem?_lines_eq_some_iff.1 hget
  · rintro ⟨hline, hstands⟩
    obtain ⟨m, rfl⟩ : ∃ m, n = m + 1 := by
      obtain ⟨before, _, _, _, _, hcount, _⟩ := hstands
      exact ⟨_, hcount.symm⟩
    exact ⟨⟨Nat.le_add_left 1 m, Text.getElem?_lines_eq_some_iff.2 hstands⟩, hline⟩

theorem pairwise_progressLinesFrom (n : Nat) (lines : List (List Char)) :
    (progressLinesFrom n lines).Pairwise fun a b => a.2 < b.2 := by
  apply List.Pairwise.filter
  induction lines generalizing n with
  | nil => simp
  | cons line rest ih =>
      rw [List.zipIdx_cons, List.pairwise_cons]
      refine ⟨?_, ih (n + 1)⟩
      intro entry hentry
      exact List.le_snd_of_mem_zipIdx hentry

theorem Gives.cons {line : List Char} {sample : Sample} (hline : reading line = .ok sample)
    {entries : List (List Char × Nat)} {samples : List Sample} (h : Gives entries samples)
    (n : Nat) : Gives ((line, n) :: entries) (sample :: samples) := by
  rw [Gives, List.map_cons, List.map_cons, hline, h]

theorem Gives.exists_of_mem {entries : List (List Char × Nat)} {samples : List Sample}
    (h : Gives entries samples) {entry : List Char × Nat} (hmem : entry ∈ entries) :
    ∃ sample, reading entry.1 = .ok sample := by
  have hreading : reading entry.1 ∈ samples.map .ok := by
    rw [← h]
    exact List.mem_map_of_mem hmem
  obtain ⟨sample, _, hsample⟩ := List.mem_map.1 hreading
  exact ⟨sample, hsample.symm⟩

theorem gives_iff_map_fst {entries : List (List Char × Nat)} {samples : List Sample} :
    Gives entries samples ↔ (entries.map Prod.fst).map reading = samples.map .ok := by
  rw [Gives, List.map_map]
  rfl

theorem Gives.length_eq {entries : List (List Char × Nat)} {samples : List Sample}
    (h : Gives entries samples) : entries.length = samples.length := by
  simpa using congrArg List.length h

theorem Gives.unique {entries : List (List Char × Nat)} {samples others : List Sample}
    (h : Gives entries samples) (h' : Gives entries others) : samples = others :=
  List.map_injective_iff.2 (fun _ _ => Except.ok.inj) (h.symm.trans h')

/-- A line that gives a sample adds its report and the sample. -/
theorem Course.cons {line : List Char} {sample : Sample} (hline : reading line = .ok sample)
    {entries : List (List Char × Nat)} {events : List Event}
    {result : Except Error (List Sample)} (h : Course entries events result) (n : Nat) :
    Course ((line, n) :: entries) (.sampleRead n sample :: events)
      (result.map (sample :: ·)) := by
  cases h with
  | complete given => exact .complete (given.cons hline n)
  | stopped order given rejected =>
      rw [order]
      exact .stopped rfl (given.cons hline n) rejected

theorem readLines_cons_of_ok {line : List Char} {sample : Sample}
    (h : isProgressLine line = true) (hline : reading line = .ok sample) (n : Nat)
    (rest : List (List Char)) :
    readLines n (line :: rest) =
      (.sampleRead n sample :: (readLines (n + 1) rest).1,
        (readLines (n + 1) rest).2.map (sample :: ·)) := by
  rw [reading] at hline
  simp [readLines, h, hline]

theorem course_readLines (n : Nat) (lines : List (List Char)) :
    Course (progressLinesFrom n lines) (readLines n lines).1 (readLines n lines).2 := by
  induction lines generalizing n with
  | nil => exact .complete rfl
  | cons line rest ih =>
      rw [progressLinesFrom_cons]
      cases hline : isProgressLine line with
      | false =>
          rw [readLines_cons_of_not_progress hline]
          exact ih (n + 1)
      | true =>
          cases hreading : reading line with
          | error fault =>
              rw [readLines_cons_of_error hline hreading]
              exact .stopped (List.nil_append _).symm (show Gives [] [] from rfl) hreading
          | ok sample =>
              rw [readLines_cons_of_ok hline hreading]
              exact (ih (n + 1)).cons hreading n

theorem Gives.not_rejected {entries : List (List Char × Nat)} {samples : List Sample}
    (h : Gives entries samples) {line : List Char} {n : Nat} (hmem : (line, n) ∈ entries)
    {fault : Fault} : reading line ≠ .error fault := by
  obtain ⟨sample, hsample⟩ := h.exists_of_mem hmem
  rw [hsample]
  simp

theorem find?_rejected {front : List (List Char × Nat)} {samples : List Sample}
    (given : Gives front samples) {line : List Char} {fault : Fault}
    (rejected : reading line = .error fault) (n : Nat) (rest : List (List Char × Nat)) :
    ((front ++ (line, n) :: rest).find? fun entry => !(reading entry.1).isOk) =
      some (line, n) := by
  rw [List.find?_eq_some_iff_append]
  refine ⟨by simp [rejected, Except.isOk, Except.toBool], front, rest, rfl, ?_⟩
  intro entry hentry
  obtain ⟨sample, hsample⟩ := given.exists_of_mem hentry
  simp [hsample, Except.isOk, Except.toBool]

theorem Course.eq_of_gives {entries : List (List Char × Nat)} {samples : List Sample}
    (given : Gives entries samples) {events : List Event} {result : Except Error (List Sample)}
    (h : Course entries events result) :
    events = reports entries samples ∧ result = .ok samples := by
  cases h with
  | complete given' => rw [given'.unique given]; exact ⟨rfl, rfl⟩
  | stopped order _ rejected =>
      rw [order] at given
      exact absurd rejected (given.not_rejected (List.mem_append_right _ List.mem_cons_self))

/-- Only one line can be the first that gives no sample. -/
theorem Course.eq_of_rejected {front rest : List (List Char × Nat)} {line : List Char} {n : Nat}
    {samples : List Sample} {fault : Fault} (given : Gives front samples)
    (rejected : reading line = .error fault) {events : List Event}
    {result : Except Error (List Sample)}
    (h : Course (front ++ (line, n) :: rest) events result) : result = .error ⟨n, fault⟩ := by
  have hfirst := find?_rejected given rejected n rest
  generalize hentries : front ++ (line, n) :: rest = entries at h hfirst
  cases h with
  | complete given' =>
      rw [← hentries] at given'
      exact absurd rejected (given'.not_rejected (List.mem_append_right _ List.mem_cons_self))
  | stopped order given' rejected' =>
      rw [order, find?_rejected given' rejected', Option.some.injEq, Prod.mk.injEq] at hfirst
      obtain ⟨rfl, rfl⟩ := hfirst
      rw [rejected] at rejected'
      cases rejected'
      rfl

theorem exists_gives_of_forall {entries : List (List Char × Nat)}
    (h : ∀ entry ∈ entries, ∃ sample, reading entry.1 = .ok sample) :
    ∃ samples, Gives entries samples := by
  induction entries with
  | nil => exact ⟨[], rfl⟩
  | cons entry rest ih =>
      obtain ⟨sample, hsample⟩ := h entry List.mem_cons_self
      obtain ⟨samples, hsamples⟩ := ih fun e he => h e (List.mem_cons_of_mem _ he)
      exact ⟨sample :: samples, hsamples.cons hsample entry.2⟩

theorem course_readLog (text : List Char) :
    Course (progressLines text) (readLog text).1 (readLines 1 (Text.lines text)).2 :=
  course_readLines 1 (Text.lines text)

/-- Reading a log reports nothing but samples. -/
theorem exists_sampleRead_of_mem_readLog {text : List Char} {event : Event}
    (h : event ∈ (readLog text).1) : ∃ n sample, event = .sampleRead n sample := by
  have hreports : ∀ entries samples, event ∈ reports entries samples →
      ∃ n sample, event = .sampleRead n sample := by
    intro entries samples hmem
    rw [reports, ← List.map_uncurry_zip_eq_zipWith] at hmem
    obtain ⟨pair, _, rfl⟩ := List.mem_map.1 hmem
    exact ⟨_, _, rfl⟩
  have hcourse := course_readLog text
  generalize (readLog text).1 = events at h hcourse
  generalize (readLines 1 (Text.lines text)).2 = result at hcourse
  cases hcourse with
  | complete => exact hreports _ _ h
  | stopped => exact hreports _ _ h

theorem parse_eq_map (text : List Char) :
    parse text = (readLines 1 (Text.lines text)).2.map Series.ofSamples := rfl

theorem readLog_of_gives {text : List Char} {samples : List Sample}
    (given : Gives (progressLines text) samples) :
    readLog text = (reports (progressLines text) samples, .ok (.ofSamples samples)) := by
  obtain ⟨hevents, hresult⟩ := (course_readLog text).eq_of_gives given
  apply Prod.ext
  · exact hevents
  · change parse text = _
    rw [parse_eq_map, hresult]
    rfl

/-- A log has a series when its progress lines give samples, which are then those of the series. -/
theorem parse_eq_ok_iff {text : List Char} {series : Series} :
    parse text = .ok series ↔
      ∃ samples, Gives (progressLines text) samples ∧ series = .ofSamples samples := by
  constructor
  · intro h
    have hcourse := course_readLog text
    rw [parse_eq_map] at h
    generalize (readLog text).1 = events at hcourse
    generalize (readLines 1 (Text.lines text)).2 = result at h hcourse
    cases hcourse with
    | complete given => exact ⟨_, given, (Except.ok.inj h).symm⟩
    | stopped => cases h
  · rintro ⟨samples, given, rfl⟩
    rw [parse, readLog_of_gives given]

theorem parse_of_rejected {text : List Char} {front rest : List (List Char × Nat)}
    {line : List Char} {n : Nat} (order : progressLines text = front ++ (line, n) :: rest)
    {samples : List Sample} (given : Gives front samples) {fault : Fault}
    (rejected : reading line = .error fault) : parse text = .error ⟨n, fault⟩ := by
  have hcourse := course_readLog text
  rw [order] at hcourse
  rw [parse_eq_map, hcourse.eq_of_rejected given rejected]
  rfl

theorem parse_eq_error_iff {text : List Char} {error : Error} :
    parse text = .error error ↔
      ∃ front line rest, progressLines text = front ++ (line, error.line) :: rest ∧
        (∃ samples, Gives front samples ∧ (readLog text).1 = reports front samples) ∧
        reading line = .error error.fault := by
  have hcourse := course_readLog text
  rw [parse_eq_map]
  constructor
  · intro h
    generalize (readLog text).1 = events at hcourse ⊢
    generalize (readLines 1 (Text.lines text)).2 = result at h hcourse
    cases hcourse with
    | complete => cases h
    | stopped order given rejected =>
        obtain rfl := Except.error.inj h
        exact ⟨_, _, _, order, ⟨_, given, rfl⟩, rejected⟩
  · rintro ⟨front, line, rest, order, ⟨samples, given, _⟩, rejected⟩
    rw [← parse_eq_map]
    exact parse_of_rejected order given rejected

/-- Reading a log goes through its progress lines in order: it fails at the first one that gives no
sample, with the number that the line has in the log, and else gives one sample for each. What is
reported are the samples of the lines before the failure. -/
theorem readLog_progressLines (text : List Char) :
    ((∃ series, parse text = .ok series) ↔
        ∀ entry ∈ progressLines text, ∃ sample, reading entry.1 = .ok sample) ∧
      (∀ series, parse text = .ok series →
        Gives (progressLines text) series.samples ∧
          series.size = (progressLines text).length ∧
          (readLog text).1 = reports (progressLines text) series.samples) ∧
      (∀ error, parse text = .error error ↔
        ∃ front line rest, progressLines text = front ++ (line, error.line) :: rest ∧
          (∃ samples, Gives front samples ∧ (readLog text).1 = reports front samples) ∧
          reading line = .error error.fault) ∧
      (∀ line n, (line, n) ∈ progressLines text ↔
        isProgressLine line = true ∧ Text.IsLine text n line) ∧
      ((progressLines text).Pairwise fun a b => a.2 < b.2) ∧
      ∀ other, (progressLines other).map Prod.fst = (progressLines text).map Prod.fst →
        ∀ series, parse other = .ok series ↔ parse text = .ok series := by
  refine ⟨⟨?_, ?_⟩, ?_, fun _ => parse_eq_error_iff, fun _ _ => mem_progressLines_iff,
    pairwise_progressLinesFrom 1 _, ?_⟩
  · rintro ⟨series, h⟩ entry hentry
    obtain ⟨samples, given, _⟩ := parse_eq_ok_iff.1 h
    exact given.exists_of_mem hentry
  · intro h
    obtain ⟨samples, given⟩ := exists_gives_of_forall h
    exact ⟨_, parse_eq_ok_iff.2 ⟨samples, given, rfl⟩⟩
  · intro series h
    obtain ⟨samples, given, rfl⟩ := parse_eq_ok_iff.1 h
    rw [Series.samples_ofSamples, Series.size_ofSamples, given.length_eq, readLog_of_gives given]
    exact ⟨given, rfl, rfl⟩
  · intro other hsame series
    rw [parse_eq_ok_iff, parse_eq_ok_iff]
    simp only [gives_iff_map_fst, hsame]

end Progress

end BenchChart
