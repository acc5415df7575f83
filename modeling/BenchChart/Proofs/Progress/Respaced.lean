import BenchChart.Proofs.Progress.Append
import Mathlib.Logic.Relation

/-!
# White space around the lines of a log

A log may have line ends of either kind, and blanks before and after each of its lines. One such
change leaves each piece between two line feeds the same up to the blanks at its ends, and reading
goes by the trimmed pieces: a log is read alike after any number of changes.
-/

namespace BenchChart

namespace Text

/-- The second text is the first with white space added around a line. -/
inductive Respaced : List Char → List Char → Prop where
  /-- A line feed becomes a carriage return and a line feed. -/
  | returned (before after : List Char) :
      Respaced (before ++ '\n' :: after) (before ++ '\r' :: '\n' :: after)
  /-- A line is indented. -/
  | indented {before blanks : List Char} (start : before = [] ∨ before.getLast? = some '\n')
      (blank : ∀ c ∈ blanks, isBlank c = true ∧ c ≠ '\n') (after : List Char) :
      Respaced (before ++ after) (before ++ blanks ++ after)
  /-- A line is continued by blanks, up to what ends it. -/
  | trailed (before : List Char) {blanks after : List Char}
      (blank : ∀ c ∈ blanks, isBlank c = true ∧ c ≠ '\n')
      (ending : after = [] ∨ ['\n'] <+: after ∨ ['\r', '\n'] <+: after) :
      Respaced (before ++ after) (before ++ blanks ++ after)

/-- What comes before the start of a line ends with an empty piece. -/
theorem eq_nil_of_segments {before last : List Char} {front : List (List Char)}
    (start : before = [] ∨ before.getLast? = some '\n')
    (h : segments before = front ++ [last]) : last = [] := by
  rcases start with rfl | hlast
  · obtain ⟨_, hlast⟩ : front = [] ∧ last = [] := by
      simpa [List.singleton_eq_append_iff] using h
    exact hlast
  · obtain ⟨start, rfl⟩ := List.getLast?_eq_some_iff.1 hlast
    have hsegments : segments (start ++ ['\n']) = segments start ++ [[]] :=
      split_append '\n' start []
    rw [hsegments] at h
    simpa using (List.append_inj' h rfl).2

/-- What comes after the end of a line starts with a piece of blanks. -/
theorem blank_of_segments {after first : List Char} {back : List (List Char)}
    (ending : after = [] ∨ ['\n'] <+: after ∨ ['\r', '\n'] <+: after)
    (h : segments after = first :: back) : ∀ c ∈ first, isBlank c = true := by
  have hfeed (rest : List Char) : segments ('\n' :: rest) = [] :: segments rest :=
    segments_newline_cons rest
  rcases ending with rfl | ⟨rest, rfl⟩ | ⟨rest, rfl⟩
  · obtain ⟨rfl, _⟩ : first = [] ∧ back = [] := by simpa using h
    simp
  · rw [List.singleton_append, hfeed, List.cons.injEq] at h
    obtain ⟨rfl, _⟩ := h
    simp
  · have hreturn : segments (['\r'] ++ '\n' :: rest) = ['\r'] :: segments rest :=
      split_append_of_not_mem (by simp) (hfeed rest)
    rw [show ['\r', '\n'] ++ rest = ['\r'] ++ '\n' :: rest from rfl, hreturn, List.cons.injEq] at h
    obtain ⟨rfl, _⟩ := h
    simp [isBlank]

/-- Blanks put into a text are put into one of its segments, between the part of it that comes
before them and the part that comes after them. -/
theorem map_trim_segments_insert {before blanks after : List Char} (hblanks : '\n' ∉ blanks)
    (h : ∀ {front last first back}, segments before = front ++ [last] →
      segments after = first :: back → trim (last ++ (blanks ++ first)) = trim (last ++ first)) :
    (segments (before ++ blanks ++ after)).map trim = (segments (before ++ after)).map trim := by
  obtain ⟨front, last, hbefore, happend⟩ := exists_split_append '\n' before
  obtain ⟨first, back, hafter⟩ := List.exists_cons_of_ne_nil (segments_ne_nil after)
  have hinserted : segments (blanks ++ after) = (blanks ++ first) :: back :=
    split_append_of_not_mem hblanks hafter
  rw [List.append_assoc, segments, happend hinserted, segments, happend hafter]
  simp only [List.map_append, List.map_cons, h hbefore hafter]

theorem map_trim_segments_trailed (before : List Char) {blanks after : List Char}
    (blank : ∀ c ∈ blanks, isBlank c = true ∧ c ≠ '\n')
    (ending : after = [] ∨ ['\n'] <+: after ∨ ['\r', '\n'] <+: after) :
    (segments (before ++ blanks ++ after)).map trim = (segments (before ++ after)).map trim := by
  refine map_trim_segments_insert (fun hmem => (blank _ hmem).2 rfl) fun _ hafter => ?_
  have hfirst := blank_of_segments ending hafter
  rw [trim_append_blank hfirst, trim_append_blank]
  intro c hc
  rcases List.mem_append.1 hc with hc | hc
  · exact (blank c hc).1
  · exact hfirst c hc

theorem map_trim_segments_indented {before blanks : List Char}
    (start : before = [] ∨ before.getLast? = some '\n')
    (blank : ∀ c ∈ blanks, isBlank c = true ∧ c ≠ '\n') (after : List Char) :
    (segments (before ++ blanks ++ after)).map trim = (segments (before ++ after)).map trim := by
  refine map_trim_segments_insert (fun hmem => (blank _ hmem).2 rfl) fun hbefore _ => ?_
  rw [eq_nil_of_segments start hbefore, List.nil_append, List.nil_append,
    trim_blank_append fun c hc => (blank c hc).1]

/-- White space around a line changes a text nowhere but at the ends of its pieces. -/
theorem Respaced.map_trim_segments {text other : List Char} (h : Respaced text other) :
    (segments other).map trim = (segments text).map trim := by
  cases h with
  | returned before after =>
      rw [List.append_cons]
      exact map_trim_segments_trailed before (by simp [isBlank]) (.inr (.inl ⟨after, rfl⟩))
  | indented start blank after => exact map_trim_segments_indented start blank after
  | trailed before blank ending => exact map_trim_segments_trailed before blank ending

end Text

namespace Progress

theorem lineSamples_congr (n : Nat) {line other : List Char}
    (h : Text.trim line = Text.trim other) : lineSamples n line = lineSamples n other := by
  have hprogress : isProgressLine line = isProgressLine other := by
    rw [isProgressLine, isProgressLine, h]
  rw [lineSamples, lineSamples, hprogress, reading, reading, h]

/-- Lines are read by what trimming leaves of them. -/
theorem readLines_congr (n : Nat) {lines others : List (List Char)}
    (h : lines.map Text.trim = others.map Text.trim) :
    (readLines n lines).2 = (readLines n others).2 := by
  induction lines generalizing n others with
  | nil => rw [List.map_eq_nil_iff.1 (h.symm.trans List.map_nil)]
  | cons line lines ih =>
      obtain ⟨other, rest, rfl, hother, hrest⟩ := List.map_eq_cons_iff.1 h.symm
      rw [readLines_cons, readLines_cons, lineSamples_congr n hother.symm, ih (n + 1) hrest.symm]

/-- A log gives the same series or the same error however its lines end and whatever white space
stands around them. -/
theorem parse_eq_of_respaced {text other : List Char}
    (h : Relation.EqvGen Text.Respaced text other) : parse other = parse text := by
  induction h with
  | rel text other h =>
      rw [parse_eq_map_segments, parse_eq_map_segments, readLines_congr 1 h.map_trim_segments]
  | refl => rfl
  | symm _ _ _ ih => exact ih.symm
  | trans _ _ _ _ _ ih ih' => exact ih'.trans ih

theorem parse_eq_of_respaced_of_fault :
    let line := "... #1 @ 2 ms: miss_ratio = x y, load_admit = 1, cache_tp = 2, core_tp = 3".toList
    let text := line ++ '\n' :: line
    let other := '\t' :: line ++ [' '] ++ '\r' :: '\n' :: line
    Relation.EqvGen Text.Respaced text other ∧ parse other = parse text ∧
      parse text = .error ⟨1, .invalidNumber .missRatio "x y".toList⟩ := by
  intro line text other
  have hindented : Text.Respaced text ('\t' :: text) := by
    have htab : ∀ c ∈ ['\t'], Text.isBlank c = true ∧ c ≠ '\n' := by simp [Text.isBlank]
    exact .indented (.inl rfl) htab text
  have htrailed : Text.Respaced ('\t' :: text) ('\t' :: line ++ [' '] ++ '\n' :: line) :=
    .trailed ('\t' :: line) (by simp [Text.isBlank]) (.inr (.inl ⟨line, rfl⟩))
  have hreturned : Text.Respaced ('\t' :: line ++ [' '] ++ '\n' :: line) other :=
    .returned ('\t' :: line ++ [' ']) line
  have h : Relation.EqvGen Text.Respaced text other :=
    .trans _ _ _ (.rel _ _ hindented) (.trans _ _ _ (.rel _ _ htrailed) (.rel _ _ hreturned))
  exact ⟨h, parse_eq_of_respaced h, by decide +kernel⟩

end Progress

end BenchChart
