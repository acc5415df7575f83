import BenchChart.Proofs.Decimal.Numeral
import BenchChart.Proofs.Progress.Layout
import BenchChart.Proofs.Progress.Log
import BenchChart.Proofs.Text.Blank
import BenchChart.Proofs.Text.Joint

/-!
# Reading a log that was printed

The benchmark prints a line for each report, with other text around the numbers, and lines of other
stages between them. Reading the log gives the numbers back. No literal of the layout can begin in a
numeral or reach into one, so that each is found where it was printed; trimming takes away what was
printed around the line and nothing of it. A count that is too large is never taken for another one:
its line is refused, with the digits as they stand.
-/

namespace BenchChart

namespace Progress

/-- No text of the layout holds the literal that ends it, nor all but the end of it. -/
structure Layout.Clear (l : Layout) : Prop where
  lead : '#' ∉ l.lead
  requests : ' ' ∉ l.requests
  time : ' ' ∉ l.time
  gap : ¬ Layout.missRatioMark <:+: l.gap
  missRatio : ',' ∉ l.missRatio
  loadAdmit : ',' ∉ l.loadAdmit
  cacheRate : ',' ∉ l.cacheRate

/-- The texts of a clear layout are found in the line that has them. -/
theorem Layout.scan?_glue {l : Layout} (h : l.Clear) : scan? l.glue = some l := by
  -- The gap may hold the first character of the mark after it, as long as it holds no mark.
  have hgap : Text.StartsOnce missRatioMark := by decide +kernel
  rw [scan?_eq_some_iff, glue_eq, literals, marks]
  simp only [List.map_cons, List.map_nil]
  rw [Text.pieces?_of_cut (Text.cut_append_of_head? (by decide +kernel) h.lead _),
    Text.pieces?_of_cut (Text.cut_append_of_head? (by decide +kernel) h.requests _),
    Text.pieces?_of_cut (Text.cut_append_of_head? (by decide +kernel) h.time _),
    Text.pieces?_of_cut (Text.cut_append hgap h.gap _),
    Text.pieces?_of_cut (Text.cut_append_of_head? (by decide +kernel) h.missRatio _),
    Text.pieces?_of_cut (Text.cut_append_of_head? (by decide +kernel) h.loadAdmit _),
    Text.pieces?_of_cut (Text.cut_append_of_head? (by decide +kernel) h.cacheRate _),
    Text.pieces?_nil]
  rfl

/-- The numbers of a progress report, as they are printed. -/
structure Record where
  requests : Numeral.Digits
  time : Numeral.RealText
  missRatio : Numeral.RealText
  loadAdmit : Numeral.RealText
  cacheRate : Numeral.RealText
  coreRate : Numeral.RealText

/-- What is printed around the numbers of a report. -/
structure Filler where
  /-- What stands before the three dots. -/
  indent : List Char
  /-- What stands between the three dots and the request count. -/
  lead : List Char
  /-- What stands between the time and the miss ratio. -/
  gap : List Char
  /-- What stands at the end of the line. -/
  trail : List Char
  indent_isBlank : ∀ c ∈ indent, Text.isBlank c = true
  lead_mark : '#' ∉ lead
  gap_mark : ¬ Layout.missRatioMark <:+: gap
  trail_isBlank : ∀ c ∈ trail, Text.isBlank c = true
  oneLine : ∀ text ∈ [indent, lead, gap, trail], '\n' ∉ text

namespace Record

def layout (r : Record) (f : Filler) : Layout where
  lead := lineStart ++ f.lead
  requests := r.requests.chars
  time := r.time.chars
  gap := f.gap
  missRatio := r.missRatio.chars
  loadAdmit := r.loadAdmit.chars
  cacheRate := r.cacheRate.chars
  coreRate := r.coreRate.chars

def line (r : Record) (f : Filler) : List Char := f.indent ++ (r.layout f).glue ++ f.trail

/-- The sample has the numbers of the report, with its throughputs in MiB/s. -/
structure Means (r : Record) (sample : Sample) : Prop where
  requests : sample.requests.toNat = r.requests.value
  time : sample.time = r.time.value
  missRatio : sample.missRatio = r.missRatio.value
  loadAdmit : sample.loadAdmit = r.loadAdmit.value
  cacheRate : sample.cacheRate = r.cacheRate.value / Binary64.ofNat 1024
  coreRate : sample.coreRate = r.coreRate.value / Binary64.ofNat 1024

variable (r : Record) (f : Filler)

theorem clear_layout : (r.layout f).Clear := by
  have hspace : Numeral.isPart ' ' = false := by decide
  have hcomma : Numeral.isPart ',' = false := by decide
  have hstart : '#' ∉ lineStart := by decide +kernel
  constructor
  · simp [layout, hstart, f.lead_mark]
  · exact Numeral.not_mem_of_isPart r.requests.isPart hspace
  · exact Numeral.not_mem_of_isPart r.time.isPart hspace
  · exact f.gap_mark
  · exact Numeral.not_mem_of_isPart r.missRatio.isPart hcomma
  · exact Numeral.not_mem_of_isPart r.loadAdmit.isPart hcomma
  · exact Numeral.not_mem_of_isPart r.cacheRate.isPart hcomma

theorem lineStart_isPrefix : lineStart <+: (r.layout f).glue := by
  rw [Layout.glue_eq, layout, List.append_assoc, List.append_assoc]
  exact List.prefix_append ..

theorem coreRate_suffix : r.coreRate.chars <:+ (r.layout f).glue := by
  rw [Layout.glue]
  exact List.suffix_append ..

/-- Trimming a line leaves its layout. -/
theorem trim_line : Text.trim (r.line f) = (r.layout f).glue := by
  rw [line, Text.trim_append_blank f.trail_isBlank, Text.trim_blank_append f.indent_isBlank]
  apply Text.trim_eq_self
  · intro c hc
    obtain ⟨rest, hrest⟩ := r.lineStart_isPrefix f
    have hstart : lineStart.head? = some '.' := by decide +kernel
    rw [← hrest, List.head?_append, hstart, Option.some_or, Option.some.injEq] at hc
    rw [← hc]
    decide
  · intro c hc
    obtain ⟨front, hfront⟩ := r.coreRate_suffix f
    have hlast := List.getLast?_eq_some_getLast r.coreRate.ne_nil
    rw [← hfront, List.getLast?_append, hlast, Option.some_or, Option.some.injEq] at hc
    rw [← hc]
    exact Numeral.not_isBlank_of_isPart (r.coreRate.isPart _ (List.getLast_mem _))

theorem newline_not_mem_line : '\n' ∉ r.line f := by
  have hnewline : Numeral.isPart '\n' = false := by decide
  have hliterals : ∀ lit ∈ Layout.literals, '\n' ∉ lit := by decide +kernel
  have hstart : '\n' ∉ lineStart := by decide +kernel
  have hpieces : ∀ piece ∈ (r.layout f).pieces, '\n' ∉ piece := by
    simp only [Layout.pieces, layout, List.forall_mem_cons, List.mem_append, not_or]
    exact ⟨⟨hstart, f.oneLine _ (by simp)⟩, Numeral.not_mem_of_isPart r.requests.isPart hnewline,
      Numeral.not_mem_of_isPart r.time.isPart hnewline, f.oneLine _ (by simp),
      Numeral.not_mem_of_isPart r.missRatio.isPart hnewline,
      Numeral.not_mem_of_isPart r.loadAdmit.isPart hnewline,
      Numeral.not_mem_of_isPart r.cacheRate.isPart hnewline,
      Numeral.not_mem_of_isPart r.coreRate.isPart hnewline, by simp⟩
  rw [line, List.mem_append, List.mem_append, not_or, not_or]
  refine ⟨⟨f.oneLine _ (by simp), ?_⟩, f.oneLine _ (by simp)⟩
  intro hmem
  rcases (r.layout f).woven_pieces.exists_of_mem hmem with ⟨piece, hpiece, hc⟩ | ⟨lit, hlit, hc⟩
  · exact hpieces piece hpiece hc
  · exact hliterals lit hlit hc

theorem isProgressLine_line : isProgressLine (r.line f) = true := by
  rw [isProgressLine, trim_line, Text.startsWith_iff]
  exact r.lineStart_isPrefix f

theorem reading_line : reading (r.line f) = sampleOfLayout (r.layout f) := by
  rw [reading, trim_line, readLine, Layout.scan?_glue (r.clear_layout f)]

theorem requests?_requests : requests? r.requests.chars =
    if r.requests.value < UInt64.size then some r.requests.value.toUInt64 else none := by
  rw [requests?, Numeral.Digits.count?_chars]
  split <;> rfl

/-- A report is read if its count is one. -/
theorem exists_reading_line (h : r.requests.value < UInt64.size) :
    ∃ sample, reading (r.line f) = .ok sample ∧ r.Means sample := by
  have hrequests := r.requests?_requests
  rw [if_pos h] at hrequests
  refine ⟨⟨r.time.value, r.requests.value.toUInt64, r.missRatio.value, r.loadAdmit.value,
    Rate.kibToMib r.cacheRate.value, Rate.kibToMib r.coreRate.value⟩, ?_, ?_⟩
  · simp only [reading_line, sampleOfLayout, layout, readField, hrequests,
      Numeral.Digits.trim_chars, Numeral.RealText.trim_chars, Numeral.RealText.real?_chars]
    rfl
  · exact ⟨UInt64.toNat_ofNat_of_lt' h, rfl, rfl, rfl, rfl, rfl⟩

/-- A report with a count that is too large is refused. -/
theorem reading_line_of_le (h : UInt64.size ≤ r.requests.value) :
    reading (r.line f) = .error (.invalidNumber .requests r.requests.chars) := by
  have hrequests := r.requests?_requests
  rw [if_neg (Nat.not_lt.2 h)] at hrequests
  simp only [reading_line, sampleOfLayout, layout, readField, hrequests,
    Numeral.Digits.trim_chars, Numeral.RealText.trim_chars, Numeral.RealText.real?_chars]
  rfl

end Record

inductive Entry where
  | report (r : Record) (f : Filler)
  /-- A line of another stage. -/
  | other (text : List Char) (oneLine : '\n' ∉ text) (foreign : isProgressLine text = false)

namespace Entry

def text : Entry → List Char
  | report r f => r.line f
  | other text _ _ => text

def record? : Entry → Option Record
  | report r _ => some r
  | other _ _ _ => none

theorem newline_not_mem_text (entry : Entry) : '\n' ∉ entry.text := by
  cases entry with
  | report r f => exact r.newline_not_mem_line f
  | other text oneLine _ => exact oneLine

end Entry

structure PrintedLine where
  entry : Entry
  /-- Whether a carriage return stands before the line feed. -/
  withReturn : Bool

namespace PrintedLine

variable (printed : PrintedLine)

/-- What stands before the line feed. -/
def segment : List Char := printed.entry.text ++ if printed.withReturn then ['\r'] else []

theorem newline_not_mem_segment : '\n' ∉ printed.segment := by
  rw [segment, List.mem_append, not_or]
  refine ⟨printed.entry.newline_not_mem_text, ?_⟩
  split <;> simp

def line : List Char := Text.stripReturn printed.segment

/-- Neither end of a line matters to what is read from it. -/
theorem trim_line : Text.trim printed.line = Text.trim printed.entry.text := by
  rw [line, Text.trim_stripReturn, segment, Text.trim_append_blank]
  split <;> simp [Text.isBlank]

theorem isProgressLine_line :
    isProgressLine printed.line = isProgressLine printed.entry.text := by
  rw [isProgressLine, trim_line, isProgressLine]

theorem reading_line : reading printed.line = reading printed.entry.text := by
  rw [reading, trim_line, reading]

end PrintedLine

def printLog (lines : List PrintedLine) : List Char :=
  lines.flatMap fun printed => printed.segment ++ ['\n']

def records (lines : List PrintedLine) : List Record :=
  lines.filterMap fun printed => printed.entry.record?

theorem records_cons_of_other {printed : PrintedLine} {text : List Char}
    {oneLine : '\n' ∉ text} {foreign : isProgressLine text = false}
    (h : printed.entry = .other text oneLine foreign) (rest : List PrintedLine) :
    records (printed :: rest) = records rest := by
  simp [records, h, Entry.record?]

theorem records_cons_of_report {printed : PrintedLine} {r : Record} {f : Filler}
    (h : printed.entry = .report r f) (rest : List PrintedLine) :
    records (printed :: rest) = r :: records rest := by
  simp [records, h, Entry.record?]

theorem lines_printLog (lines : List PrintedLine) :
    Text.lines (printLog lines) = lines.map PrintedLine.line := by
  induction lines with
  | nil => rfl
  | cons printed rest ih =>
      have hlog : printLog (printed :: rest) = printed.segment ++ '\n' :: printLog rest := by
        simp [printLog]
      rw [hlog, Text.lines_cons printed.newline_not_mem_segment, ih, List.map_cons,
        PrintedLine.line]

theorem progressLinesFrom_cons_of_other {printed : PrintedLine} {text : List Char}
    {oneLine : '\n' ∉ text} {foreign : isProgressLine text = false}
    (h : printed.entry = .other text oneLine foreign) (n : Nat) (rest : List (List Char)) :
    progressLinesFrom n (printed.line :: rest) = progressLinesFrom (n + 1) rest := by
  have hline : isProgressLine printed.line = false := by
    rw [printed.isProgressLine_line, h]
    exact foreign
  rw [progressLinesFrom_cons, hline]
  rfl

theorem progressLinesFrom_cons_of_report {printed : PrintedLine} {r : Record} {f : Filler}
    (h : printed.entry = .report r f) (n : Nat) (rest : List (List Char)) :
    progressLinesFrom n (printed.line :: rest) =
      (printed.line, n) :: progressLinesFrom (n + 1) rest := by
  have hline : isProgressLine printed.line = true := by
    rw [printed.isProgressLine_line, h]
    exact r.isProgressLine_line f
  rw [progressLinesFrom_cons, if_pos hline]

/-- Reports with counts that are not too large give their samples, whatever stands between them. -/
theorem exists_gives_of_lt (n : Nat) {lines : List PrintedLine}
    (h : ∀ r ∈ records lines, r.requests.value < UInt64.size) :
    ∃ samples, Gives (progressLinesFrom n (lines.map PrintedLine.line)) samples ∧
      List.Forall₂ Record.Means (records lines) samples := by
  -- The number of a line grows with every line, also with those that are passed over.
  induction lines generalizing n with
  | nil => exact ⟨[], rfl, .nil⟩
  | cons printed rest ih =>
      rw [List.map_cons]
      cases hentry : printed.entry with
      | other text oneLine foreign =>
          rw [records_cons_of_other hentry] at h ⊢
          rw [progressLinesFrom_cons_of_other hentry]
          exact ih (n + 1) h
      | report r f =>
          rw [records_cons_of_report hentry, List.forall_mem_cons] at h
          obtain ⟨sample, hsample, hmeans⟩ := r.exists_reading_line f h.1
          obtain ⟨samples, hgives, hall⟩ := ih (n + 1) h.2
          have hline : reading printed.line = .ok sample := by
            rw [printed.reading_line, hentry]
            exact hsample
          rw [progressLinesFrom_cons_of_report hentry, records_cons_of_report hentry]
          exact ⟨sample :: samples, hgives.cons hline n, .cons hmeans hall⟩

/-- A list of reports has a first one with a count that is too large, if it has any. -/
theorem exists_first_of_le {lines : List PrintedLine}
    (h : ∃ r ∈ records lines, UInt64.size ≤ r.requests.value) :
    ∃ front printed back r f, lines = front ++ printed :: back ∧ printed.entry = .report r f ∧
      (∀ s ∈ records front, s.requests.value < UInt64.size) ∧
      UInt64.size ≤ r.requests.value := by
  induction lines with
  | nil => simp [records] at h
  | cons printed rest ih =>
      cases hentry : printed.entry with
      | other text oneLine foreign =>
          rw [records_cons_of_other hentry] at h
          obtain ⟨front, first, back, r, f, rfl, hfirst, hfront, hle⟩ := ih h
          refine ⟨printed :: front, first, back, r, f, rfl, hfirst, ?_, hle⟩
          rwa [records_cons_of_other hentry]
      | report r f =>
          by_cases hr : UInt64.size ≤ r.requests.value
          · exact ⟨[], printed, rest, r, f, rfl, hentry, by simp [records], hr⟩
          · rw [records_cons_of_report hentry] at h
            obtain ⟨s, hs, hle⟩ := h
            rcases List.mem_cons.1 hs with rfl | hs
            · exact absurd hle hr
            · obtain ⟨front, first, back, t, g, rfl, hfirst, hfront, hle⟩ := ih ⟨s, hs, hle⟩
              refine ⟨printed :: front, first, back, t, g, rfl, hfirst, ?_, hle⟩
              rw [records_cons_of_report hentry, List.forall_mem_cons]
              exact ⟨Nat.lt_of_not_le hr, hfront⟩

/-- Reading a printed log gives one sample for each report, with its numbers. If the count of a
report is too large, reading fails on the first such line. -/
theorem parse_printLog (lines : List PrintedLine) :
    ((∀ r ∈ records lines, r.requests.value < UInt64.size) →
        ∃ series, parse (printLog lines) = .ok series ∧
          List.Forall₂ Record.Means (records lines) series.samples) ∧
      ((∃ r ∈ records lines, UInt64.size ≤ r.requests.value) →
        ∃ front printed back r f, lines = front ++ printed :: back ∧
          printed.entry = .report r f ∧
          (∀ s ∈ records front, s.requests.value < UInt64.size) ∧
          UInt64.size ≤ r.requests.value ∧
          parse (printLog lines) =
            .error ⟨front.length + 1, .invalidNumber .requests r.requests.chars⟩) := by
  have hprogress : progressLines (printLog lines) =
      progressLinesFrom 1 (lines.map PrintedLine.line) := by
    rw [progressLines, lines_printLog]
  constructor
  · intro h
    obtain ⟨samples, hgives, hmeans⟩ := exists_gives_of_lt 1 h
    rw [← hprogress] at hgives
    refine ⟨.ofSamples samples, parse_eq_ok_iff.2 ⟨samples, hgives, rfl⟩, ?_⟩
    rwa [Series.samples_ofSamples]
  · intro h
    obtain ⟨front, printed, back, r, f, rfl, hentry, hfront, hle⟩ := exists_first_of_le h
    obtain ⟨samples, hgives, _⟩ := exists_gives_of_lt 1 hfront
    refine ⟨front, printed, back, r, f, rfl, hentry, hfront, hle, ?_⟩
    rw [List.map_append, List.map_cons, progressLinesFrom_append, List.length_map,
      progressLinesFrom_cons_of_report hentry, Nat.add_comm] at hprogress
    refine parse_of_rejected hprogress hgives ?_
    rw [printed.reading_line, hentry]
    exact r.reading_line_of_le f hle

theorem parse_printLog_of_largest_count :
    ∃ (zero : Numeral.RealText) (f : Filler) (other : PrintedLine),
      let report (n : Nat) : PrintedLine :=
        ⟨.report ⟨.ofNat n, zero, zero, zero, zero, zero⟩ f, true⟩
      let largest := UInt64.size - 1
      zero.chars = "0".toList ∧ f.lead = " stage 2, ".toList ∧
        other.entry.text = "+++ #1 @ 2 ms".toList ∧
        (∃ series, parse (printLog [other, report largest]) = .ok series ∧
          series.samples.map (fun s => s.requests.toNat) = [largest]) ∧
        ∃ line, parse (printLog [other, report (largest + 1)]) =
          .error ⟨line, .invalidNumber .requests (Decimal.digitChars (largest + 1))⟩ := by
  have hvalue : ∀ n, (Numeral.Digits.ofNat n).value = n := Numeral.Digits.value_ofNat
  obtain ⟨zero, hzero⟩ : ∃ zero : Numeral.RealText, zero.chars = "0".toList :=
    ⟨⟨_, by decide +kernel⟩, rfl⟩
  obtain ⟨f, hf⟩ : ∃ f : Filler, f.lead = " stage 2, ".toList :=
    ⟨⟨['\t'], _, ": ".toList, [' '], by simp [Text.isBlank], by decide +kernel, by decide +kernel,
      by simp [Text.isBlank], by decide +kernel⟩, rfl⟩
  have oneLine : '\n' ∉ "+++ #1 @ 2 ms".toList := by decide +kernel
  have foreign : isProgressLine "+++ #1 @ 2 ms".toList = false := by decide +kernel
  refine ⟨zero, f, ⟨.other _ oneLine foreign, false⟩, ?_⟩
  intro report largest
  refine ⟨hzero, hf, rfl, ?_, ?_⟩
  · have hrecords : records [⟨.other _ oneLine foreign, false⟩, report largest] =
        [⟨.ofNat largest, zero, zero, zero, zero, zero⟩] := rfl
    obtain ⟨series, hseries, hmeans⟩ := (parse_printLog _).1
      (by rw [hrecords, List.forall_mem_singleton, hvalue]; decide)
    refine ⟨series, hseries, ?_⟩
    rw [hrecords] at hmeans
    generalize series.samples = samples at hmeans
    cases hmeans with
    | cons hsample hrest =>
        cases hrest
        rw [List.map_singleton, hsample.requests, hvalue]
  · have hrecords : records [⟨.other _ oneLine foreign, false⟩, report (largest + 1)] =
        [⟨.ofNat (largest + 1), zero, zero, zero, zero, zero⟩] := rfl
    obtain ⟨front, printed, back, r, _, horder, hentry, _, _, hparse⟩ := (parse_printLog _).2
      ⟨_, by rw [hrecords]; exact List.mem_singleton_self _, Nat.le_of_eq (hvalue _).symm⟩
    have hr : r ∈ records (front ++ printed :: back) := by
      rw [records, List.mem_filterMap]
      exact ⟨printed, by simp, by simp [hentry, Entry.record?]⟩
    rw [← horder, hrecords, List.mem_singleton] at hr
    refine ⟨front.length + 1, hparse.trans ?_⟩
    rw [hr]
    rfl

end Progress

end BenchChart
