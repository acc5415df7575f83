import BenchChart.Proofs.Progress.Log
import BenchChart.Proofs.Progress.Outcome
import BenchChart.Proofs.Text.Offset
import BenchChart.Proofs.Text.Trimmed

/-!
# Faults of untrimmed lines

A line is trimmed before it is read, and the fault is one of the trimmed line. The line itself has
the same fault but for one case: the trimming cut the space at the end of a marker. The marker is
then missing, or the layout is, although the line has it.
-/

namespace BenchChart

namespace Text

theorem cut_append_left {c : Char} {tail front cs before rest : List Char} (h : c ∉ front)
    (hcut : cut (c :: tail) cs = some (before, rest)) :
    cut (c :: tail) (front ++ cs) = some (front ++ before, rest) := by
  induction front with
  | nil => exact hcut
  | cons d front ih =>
      obtain ⟨hd, hfront⟩ : c ≠ d ∧ c ∉ front := by simpa using h
      have hafter : after? (c :: tail) (d :: (front ++ cs)) = none := by
        rw [after?, if_neg hd]
      rw [List.cons_append, cut_cons_of_none hafter, ih hfront]
      rfl

end Text

namespace Progress

def Laid (cs : List Char) : Prop := ∃ l : Layout, l.glue = cs

/-- What a fault says about a line. -/
def Fault.HoldsOf (line : List Char) : Fault → Prop
  | .missingMarker marker => ¬ marker.text.toList <:+: line
  | .malformed => ¬ Laid line
  | .invalidNumber _ _ => Laid line

/-- Trimming the line cut off what the fault misses. -/
def Fault.CutOff (line : List Char) : Fault → Prop
  | .missingMarker marker => Text.EndCut marker.text.toList (Text.trimStart line)
  | .malformed =>
    Text.EndCut Layout.coreRateMark (Text.trimStart line) ∧ Laid (Text.trim line ++ [' '])
  | .invalidNumber _ _ => False

/-- Faults of one kind, with the same marker or the same field. The text of the field is the same
but for the blanks at its ends. -/
inductive Fault.Alike : Fault → Fault → Prop where
  | missingMarker (marker : Marker) : Alike (.missingMarker marker) (.missingMarker marker)
  | malformed : Alike .malformed .malformed
  | invalidNumber (field : Field) {value other : List Char}
      (same : Text.trim value = Text.trim other) :
      Alike (.invalidNumber field value) (.invalidNumber field other)

theorem laid_of_coreRate (l : Layout) :
    ∃ front, l.glue = front ++ Layout.coreRateMark ++ l.coreRate ∧
      ∀ rest, Laid (front ++ Layout.coreRateMark ++ rest) :=
  ⟨_, rfl, fun rest => ⟨{ l with coreRate := rest }, rfl⟩⟩

theorem laid_of_lead (l : Layout) :
    ∃ back, l.glue = l.lead ++ '#' :: back ∧ ∀ lead, Laid (lead ++ '#' :: back) := by
  have hmark : Layout.requestsMark = ['#'] := rfl
  have hglue (l : Layout) := l.glue_eq
  simp only [hmark, List.append_assoc, List.singleton_append] at hglue
  exact ⟨_, hglue l, fun lead => ⟨{ l with lead }, hglue _⟩⟩

theorem Laid.append_right {cs : List Char} (h : Laid cs) (more : List Char) :
    Laid (cs ++ more) := by
  obtain ⟨l, rfl⟩ := h
  obtain ⟨front, hglue, hlaid⟩ := laid_of_coreRate l
  rw [hglue, List.append_assoc]
  exact hlaid _

theorem Laid.append_left {cs : List Char} (h : Laid cs) (more : List Char) :
    Laid (more ++ cs) := by
  obtain ⟨l, rfl⟩ := h
  obtain ⟨back, hglue, hlaid⟩ := laid_of_lead l
  rw [hglue, ← List.append_assoc]
  exact hlaid _

/-- A layout needs none of the blanks at the start of a line. -/
theorem laid_iff_trimStart {cs : List Char} : Laid cs ↔ Laid (Text.trimStart cs) := by
  obtain ⟨blanks, hcs, hblanks⟩ := Text.exists_blank_append_trimStart cs
  constructor
  · rintro ⟨l, rfl⟩
    obtain ⟨back, hglue, hlaid⟩ := laid_of_lead l
    have hsplit := hglue.symm.trans hcs
    rcases List.append_eq_append_iff.1 hsplit with ⟨more, hfront, hback⟩ | ⟨more, hfront, hback⟩
    · -- The mark would stand among the blanks.
      cases more with
      | nil =>
          rw [List.nil_append] at hback
          rw [← hback]
          exact hlaid []
      | cons c more =>
          obtain ⟨rfl, _⟩ := List.cons.inj hback
          have hmark : Text.isBlank '#' = true := hblanks '#' (by simp [hfront])
          simp [Text.isBlank] at hmark
    · rw [hback]
      exact hlaid more
  · intro h
    rw [hcs]
    exact h.append_left blanks

theorem endsBare_coreRateMark : Text.EndsBare Layout.coreRateMark := by
  decide +kernel

/-- A layout needs none of the blanks at the end of a line but the space of its last literal. -/
theorem laid_iff_trimEnd {cs : List Char} :
    Laid cs ↔ Laid (Text.trimEnd cs) ∨
      Text.EndCut Layout.coreRateMark cs ∧ Laid (Text.trimEnd cs ++ [' ']) := by
  constructor
  · rintro ⟨l, rfl⟩
    obtain ⟨front, hglue, hlaid⟩ := laid_of_coreRate l
    rw [hglue]
    rcases Text.trimEnd_of_append endsBare_coreRateMark front l.coreRate with
      ⟨rest, htrim⟩ | ⟨hspace, htrim, hcut⟩
    · rw [htrim]
      exact .inl (hlaid rest)
    · refine .inr ⟨⟨_, hspace, ⟨front, htrim.symm⟩, hcut⟩, ?_⟩
      rw [htrim, List.append_assoc, ← hspace, ← List.append_nil (front ++ _)]
      exact hlaid []
  · rintro (h | ⟨⟨_, _, _, more, hmore⟩, h⟩)
    · obtain ⟨blanks, hcs, _⟩ := Text.exists_append_trimEnd cs
      rw [hcs]
      exact h.append_right blanks
    · rw [← hmore]
      exact h.append_right more

theorem laid_iff_trim {line : List Char} :
    Laid line ↔ Laid (Text.trim line) ∨
      Text.EndCut Layout.coreRateMark (Text.trimStart line) ∧ Laid (Text.trim line ++ [' ']) := by
  rw [laid_iff_trimStart, laid_iff_trimEnd]
  rfl

theorem endsBare_marker (marker : Marker) : Text.EndsBare marker.text.toList := by
  cases marker <;> decide +kernel

/-- A marker occurs in a line if it occurs in the trimmed line, or if trimming cut it. -/
theorem infix_iff_trim {line : List Char} (h : isProgressLine line = true) (marker : Marker) :
    marker.text.toList <:+: line ↔ marker.text.toList <:+: Text.trim line ∨
      Text.EndCut marker.text.toList (Text.trimStart line) := by
  have hdot : '.' ∉ marker.text.toList := by cases marker <;> decide +kernel
  have hhead : (Text.trimStart line).head? = some '.' := by
    obtain ⟨rest, hrest⟩ :=
      (Text.startsWith_iff.1 h).trans (Text.trimEnd_isPrefix (Text.trimStart line))
    rw [← hrest]
    rfl
  rw [Text.infix_iff_trimStart (endsBare_marker marker).1 hdot hhead,
    Text.infix_iff_trimEnd (endsBare_marker marker)]
  rfl

/-- The fault of the trimmed line holds of the line itself unless the trimming cut off what it
misses. -/
theorem holdsOf_iff_not_cutOff {line : List Char} (h : isProgressLine line = true) {fault : Fault}
    (hfault : readLine (Text.trim line) = .error fault) :
    fault.HoldsOf (Text.trim line) ∧ (fault.HoldsOf line ↔ ¬ fault.CutOff line) := by
  cases readLine_eq_iff.1 hfault with
  | missingMarker _ _ absent =>
      refine ⟨absent, ?_⟩
      rw [Fault.HoldsOf, Fault.CutOff, infix_iff_trim h, or_iff_right absent]
  | malformed _ unlaid =>
      have hunlaid : ¬ Laid (Text.trim line) := unlaid
      refine ⟨hunlaid, ?_⟩
      rw [Fault.HoldsOf, Fault.CutOff, laid_iff_trim, or_iff_right hunlaid]
  | invalidNumber laid =>
      have hlaid : Laid (Text.trim line) := ⟨_, laid.1⟩
      exact ⟨hlaid, iff_of_true (laid_iff_trim.2 (.inl hlaid)) not_false⟩

theorem scan?_of_padded {lead cs : List Char} (hlead : '#' ∉ lead) {l : Layout}
    (h : Layout.scan? cs = some l) (trail : List Char) :
    Layout.scan? (lead ++ cs ++ trail) =
      some { l with lead := lead ++ l.lead, coreRate := l.coreRate ++ trail } := by
  simp only [Layout.scan?, bind, Option.bind_eq_some_iff] at h
  obtain ⟨⟨_, _⟩, h1, ⟨_, _⟩, h2, ⟨_, _⟩, h3, ⟨_, _⟩, h4, ⟨_, _⟩, h5, ⟨_, _⟩, h6,
    ⟨_, _⟩, h7, he⟩ := h
  cases he
  dsimp only at h1 h2 h3 h4 h5 h6 h7
  have hfirst : Text.cut Layout.requestsMark (lead ++ cs) = some (lead ++ _, _) :=
    Text.cut_append_left hlead h1
  rw [Layout.scan?, Text.cut_append_right hfirst trail]
  dsimp only [bind, Option.bind]
  simp only [Text.cut_append_right h2 trail, Text.cut_append_right h3 trail,
    Text.cut_append_right h4 trail, Text.cut_append_right h5 trail, Text.cut_append_right h6 trail,
    Text.cut_append_right h7 trail, pure]

theorem accepts_congr {value other : List Char} (h : Text.trim value = Text.trim other)
    (field : Field) : field.accepts value = field.accepts other := by
  cases field <;> simp only [Field.accepts, h]

theorem invalidField?_congr {l m : Layout}
    (h : ∀ field, Text.trim (l.text field) = Text.trim (m.text field)) :
    invalidField? l = invalidField? m := by
  simp only [invalidField?, accepts_congr (h _)]

/-- A line has the fault of a field together with the trimmed line. -/
theorem exists_alike_of_laid {line : List Char} {l : Layout} (h : l.Preferred (Text.trim line))
    {field : Field} (hfield : invalidField? l = some field) :
    ∃ fault, readLine line = .error fault ∧
      fault.Alike (.invalidNumber field (l.text field)) := by
  obtain ⟨lead, hstart, hlead⟩ := Text.exists_blank_append_trimStart line
  obtain ⟨trail, hend, htrail⟩ := Text.exists_append_trimEnd (Text.trimStart line)
  have hline : line = lead ++ Text.trim line ++ trail := by
    rw [List.append_assoc, Text.trim, ← hend]
    exact hstart
  have hmark : '#' ∉ lead := fun hmem => by simpa [Text.isBlank] using hlead _ hmem
  have hscan := scan?_of_padded hmark (Layout.scan?_eq_some_iff_preferred.2 h) trail
  generalize hpadded : { l with lead := lead ++ l.lead, coreRate := l.coreRate ++ trail } = m
    at hscan
  have hsame (field : Field) : Text.trim (m.text field) = Text.trim (l.text field) := by
    rw [← hpadded]
    cases field with
    | coreRate => exact Text.trim_append_blank htrail _
    | _ => rfl
  refine ⟨.invalidNumber field (m.text field), ?_, .invalidNumber field (hsame field)⟩
  rw [readLine, hline, hscan]
  exact sampleOfLayout_of_invalidField? ((invalidField?_congr hsame).trans hfield)

/-- Reading the line without trimming it gives the fault of the trimmed line unless the trimming cut
off what that misses. -/
theorem exists_alike_iff_not_cutOff {line : List Char} (h : isProgressLine line = true)
    {fault : Fault} (hfault : readLine (Text.trim line) = .error fault) :
    (∃ raw, readLine line = .error raw ∧ raw.Alike fault) ↔ ¬ fault.CutOff line := by
  obtain ⟨_, hholds⟩ := holdsOf_iff_not_cutOff h hfault
  rw [← hholds]
  cases readLine_eq_iff.1 hfault with
  | missingMarker order present absent =>
      constructor
      · rintro ⟨_, hraw, halike⟩
        cases halike
        cases readLine_eq_iff.1 hraw with
        | missingMarker _ _ absent => exact absent
      · intro absent
        have present (m : Marker) (hm : m ∈ _) := (infix_iff_trim h m).2 (.inl (present m hm))
        exact ⟨_, readLine_eq_iff.2 (.missingMarker order present absent), .missingMarker _⟩
  | malformed present unlaid =>
      constructor
      · rintro ⟨_, hraw, halike⟩
        cases halike
        cases readLine_eq_iff.1 hraw with
        | malformed _ unlaid => exact unlaid
      · intro unlaid
        have present (m : Marker) := (infix_iff_trim h m).2 (.inl (present m))
        exact ⟨_, readLine_eq_iff.2 (.malformed present unlaid), .malformed⟩
  | invalidNumber laid order valid invalid =>
      have hfield := find?_not_eq_some_iff.2 ⟨_, _, order, valid, invalid⟩
      exact iff_of_true (exists_alike_of_laid laid hfield) (laid_iff_trim.2 (.inl ⟨_, laid.1⟩))

/-- A log fails with a fault of one of its progress lines as trimmed. The fault holds of the line as
it stands in the log, and reading it untrimmed gives the same fault, unless the trimming cut off the
space at the end of the line's last marker. -/
theorem parse_error_untrimmed {text : List Char} {error : Error} (h : parse text = .error error) :
    ∃ line, Text.IsLine text error.line line ∧ isProgressLine line = true ∧
      readLine (Text.trim line) = .error error.fault ∧
      error.fault.HoldsOf (Text.trim line) ∧
      (error.fault.HoldsOf line ↔ ¬ error.fault.CutOff line) ∧
      ((∃ fault, readLine line = .error fault ∧ fault.Alike error.fault) ↔
        ¬ error.fault.CutOff line) := by
  obtain ⟨front, line, rest, order, _, hfault⟩ := parse_eq_error_iff.1 h
  have hmem : (line, error.line) ∈ progressLines text := by simp [order]
  obtain ⟨hprogress, hline⟩ := mem_progressLines_iff.1 hmem
  obtain ⟨htrimmed, hholds⟩ := holdsOf_iff_not_cutOff hprogress hfault
  exact ⟨line, hline, hprogress, hfault, htrimmed, hholds,
    exists_alike_iff_not_cutOff hprogress hfault⟩

theorem parse_error_untrimmed_of_blanks :
    let text :=
      "\t... #1 @ 2 ms: miss_ratio = 0, load_admit = 1, cache_tp = 2, core_tp = x \n".toList
    let invalid := Fault.invalidNumber .coreRate ['x']
    parse text = .error ⟨1, invalid⟩ ∧ ∃ line, Text.IsLine text 1 line ∧ Laid line ∧
      ∃ fault, readLine line = .error fault ∧ fault.Alike invalid := by
  intro text invalid
  have h : parse text = .error ⟨1, invalid⟩ := by decide +kernel
  obtain ⟨line, hline, _, _, _, hholds, halike⟩ := parse_error_untrimmed h
  exact ⟨h, line, hline, hholds.2 not_false, halike.2 not_false⟩

/-- A line that ends where the text of its last field should start has every marker and the layout,
and the fault is that it lacks the last marker. If that stands somewhere else too, the fault is that
the line lacks the layout. -/
theorem fault_of_cut_marker :
    let fields := "#1 @ 2 ms: miss_ratio = 0, load_admit = 1, cache_tp = 2, core_tp = ".toList
    let line := "... ".toList ++ fields
    let text := line ++ ['\n']
    let other := "... core_tp = 1 ".toList ++ fields
    let otherText := other ++ ['\n']
    (parse text = .error ⟨1, .missingMarker .coreRate⟩ ∧ Text.IsLine text 1 line ∧
        Marker.coreRate.text.toList <:+: line) ∧
      (parse otherText = .error ⟨1, .malformed⟩ ∧ Text.IsLine otherText 1 other ∧ Laid other) ∧
      ¬ ∀ text error line, parse text = .error error → Text.IsLine text error.line line →
        error.fault.HoldsOf line := by
  intro fields line text other otherText
  have hparse : parse text = .error ⟨1, .missingMarker .coreRate⟩ := by decide +kernel
  have hline : Text.IsLine text 1 line := Text.getElem?_lines_eq_some_iff.1 (by decide +kernel)
  have hoccurs : Marker.coreRate.text.toList <:+: line := by decide +kernel
  refine ⟨⟨hparse, hline, hoccurs⟩, ⟨by decide +kernel, ?_, ?_⟩, ?_⟩
  · exact Text.getElem?_lines_eq_some_iff.1 (by decide +kernel)
  · exact ⟨⟨"... core_tp = 1 ".toList, ['1'], ['2'], [':', ' '], ['0'], ['1'], ['2'], []⟩,
      by decide +kernel⟩
  · intro h
    exact h text _ line hparse hline hoccurs

end Progress

end BenchChart
