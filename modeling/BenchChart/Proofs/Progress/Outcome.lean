import BenchChart.Proofs.Progress.Layout

/-!
# What a progress line comes to

A progress line comes to one of four things. A marker may be missing; all markers may be there, but
in no layout; a field of the layout may be no number; or the line gives a sample. `Outcome` says so
without a word on how the line is read: which marker is missing is asked of the whole line, which
field is no number of the preferred layout. Each line has exactly one outcome, and it is the one
that `readLine` returns.

The markers and the literals of the layout are two lists. What ties them is `occurs_of_glue`: a line
with a layout has every marker.
-/

namespace BenchChart

namespace Progress

/-- The fields in the order in which their numbers are read. -/
def Field.all : List Field := [.time, .requests, .missRatio, .loadAdmit, .cacheRate, .coreRate]

/-- Whether a text, but for the blanks at its ends, is a number of the field's kind. -/
def Field.accepts (field : Field) (value : List Char) : Bool :=
  match field with
  | .requests => (requests? (Text.trim value)).isSome
  | _ => (Numeral.real? (Text.trim value)).isSome

/-- What a progress line without the blanks at its ends comes to. -/
inductive Outcome (line : List Char) : Except Fault Sample → Prop where
  /-- The first marker that does not occur anywhere in the line. -/
  | missingMarker {earlier later : List Marker} {marker : Marker}
      (order : Marker.all = earlier ++ marker :: later)
      (present : ∀ m ∈ earlier, m.text.toList <:+: line)
      (absent : ¬ marker.text.toList <:+: line) :
      Outcome line (.error (.missingMarker marker))
  | malformed (present : ∀ m : Marker, m.text.toList <:+: line)
      (unlaid : ¬ ∃ l : Layout, l.glue = line) :
      Outcome line (.error .malformed)
  /-- The first field whose text in the layout is no number. -/
  | invalidNumber {l : Layout} {earlier later : List Field} {field : Field}
      (laid : l.Preferred line) (order : Field.all = earlier ++ field :: later)
      (valid : ∀ f ∈ earlier, f.accepts (l.text f) = true)
      (invalid : field.accepts (l.text field) = false) :
      Outcome line (.error (.invalidNumber field (l.text field)))
  | sample {l : Layout} {time missRatio loadAdmit cacheRate coreRate : Binary64}
      {requests : UInt64} (laid : l.Preferred line)
      (time_eq : Numeral.real? (Text.trim l.time) = some time)
      (requests_eq : requests? (Text.trim l.requests) = some requests)
      (missRatio_eq : Numeral.real? (Text.trim l.missRatio) = some missRatio)
      (loadAdmit_eq : Numeral.real? (Text.trim l.loadAdmit) = some loadAdmit)
      (cacheRate_eq : Numeral.real? (Text.trim l.cacheRate) = some cacheRate)
      (coreRate_eq : Numeral.real? (Text.trim l.coreRate) = some coreRate) :
      Outcome line (.ok ⟨time, requests, missRatio, loadAdmit,
        cacheRate / Binary64.ofNat 1024, coreRate / Binary64.ofNat 1024⟩)

/-- The first field whose text is no number. -/
def invalidField? (l : Layout) : Option Field := Field.all.find? fun f => !f.accepts (l.text f)

theorem marker_occurs_in_literal (marker : Marker) :
    ∃ literal ∈ Layout.literals, marker.text.toList <:+: literal := by
  cases marker <;> decide +kernel

theorem occurs_of_glue (l : Layout) (marker : Marker) : marker.text.toList <:+: l.glue := by
  obtain ⟨literal, hmem, hocc⟩ := marker_occurs_in_literal marker
  exact hocc.trans (l.woven_pieces.occurs_of_mem hmem)

theorem find?_not_eq_some_iff {α : Type} {p : α → Bool} {xs : List α} {x : α} :
    (xs.find? fun a => !p a) = some x ↔
      ∃ earlier later, xs = earlier ++ x :: later ∧ (∀ a ∈ earlier, p a = true) ∧ p x = false := by
  rw [List.find?_eq_some_iff_append]
  constructor
  · rintro ⟨hx, earlier, later, order, hp⟩
    exact ⟨earlier, later, order, by simpa using hp, by simpa using hx⟩
  · rintro ⟨earlier, later, order, hp, hx⟩
    exact ⟨by simpa using hx, earlier, later, order, by simpa using hp⟩

theorem missingMarker?_eq_some_iff {line : List Char} {marker : Marker} :
    missingMarker? line = some marker ↔
      ∃ earlier later, Marker.all = earlier ++ marker :: later ∧
        (∀ m ∈ earlier, m.text.toList <:+: line) ∧ ¬ marker.text.toList <:+: line := by
  rw [missingMarker?, find?_not_eq_some_iff]
  simp only [Text.occurs_iff, ← Bool.not_eq_true]

theorem Marker.mem_all (marker : Marker) : marker ∈ all := by
  cases marker <;> decide

theorem Field.mem_all (field : Field) : field ∈ all := by
  cases field <;> decide

theorem readField_of_some {α : Type} {read? : List Char → Option α} {value : List Char} {x : α}
    (h : read? (Text.trim value) = some x) (field : Field) :
    readField read? field value = .ok x := by
  simp [readField, h]

theorem readField_of_none {α : Type} {read? : List Char → Option α} {value : List Char}
    (h : read? (Text.trim value) = none) (field : Field) :
    readField read? field value = .error (.invalidNumber field value) := by
  simp [readField, h]

/-- Reading one field after the other fails at the first one whose text is no number. -/
theorem bind_readField_of_find? {α : Type} {read? : List Char → Option α} {l : Layout}
    {bad : Field} {fields : List Field} {next : α → Except Fault Sample} (field : Field)
    (hread : field.accepts (l.text field) = (read? (Text.trim (l.text field))).isSome)
    (h : ((field :: fields).find? fun f => !f.accepts (l.text f)) = some bad)
    (hnext : ∀ x, (fields.find? fun f => !f.accepts (l.text f)) = some bad →
      next x = .error (.invalidNumber bad (l.text bad))) :
    (readField read? field (l.text field) >>= next) =
      .error (.invalidNumber bad (l.text bad)) := by
  rw [List.find?_cons, hread] at h
  cases hr : read? (Text.trim (l.text field)) with
  | none =>
      simp only [hr, Option.isSome_none, Bool.not_false, Option.some.injEq] at h
      rw [readField_of_none hr, ← h]
      rfl
  | some x =>
      simp only [hr, Option.isSome_some, Bool.not_true] at h
      rw [readField_of_some hr]
      exact hnext x h

theorem sampleOfLayout_of_invalidField? {l : Layout} {field : Field}
    (h : invalidField? l = some field) :
    sampleOfLayout l = .error (.invalidNumber field (l.text field)) := by
  apply bind_readField_of_find? .time rfl h
  intro time h
  apply bind_readField_of_find? .requests rfl h
  intro requests h
  apply bind_readField_of_find? .missRatio rfl h
  intro missRatio h
  apply bind_readField_of_find? .loadAdmit rfl h
  intro loadAdmit h
  apply bind_readField_of_find? .cacheRate rfl h
  intro cacheRate h
  apply bind_readField_of_find? .coreRate rfl h
  intro coreRate h
  cases h

theorem accepts_of_invalidField? {l : Layout} (h : invalidField? l = none) (field : Field) :
    field.accepts (l.text field) = true := by
  have hf := List.find?_eq_none.1 h field field.mem_all
  simpa using hf

theorem readLine_of_preferred {line : List Char} {l : Layout} (h : l.Preferred line) :
    readLine line = sampleOfLayout l := by
  rw [readLine, Layout.scan?_eq_some_iff_preferred.2 h]

theorem readLine_of_unlaid {line : List Char} (h : ¬ ∃ l : Layout, l.glue = line) :
    readLine line = .error (diagnose line) := by
  have hnone : Layout.scan? line = none := by
    rw [Option.eq_none_iff_forall_ne_some]
    intro l hl
    exact h ⟨l, Layout.glue_of_scan? hl⟩
  rw [readLine, hnone]

theorem unlaid_of_absent {line : List Char} {marker : Marker}
    (absent : ¬ marker.text.toList <:+: line) : ¬ ∃ l : Layout, l.glue = line := by
  rintro ⟨l, rfl⟩
  exact absent (occurs_of_glue l marker)

theorem readLine_of_outcome {line : List Char} {result : Except Fault Sample}
    (h : Outcome line result) : readLine line = result := by
  cases h with
  | missingMarker order present absent =>
      rw [readLine_of_unlaid (unlaid_of_absent absent), diagnose,
        missingMarker?_eq_some_iff.2 ⟨_, _, order, present, absent⟩]
  | malformed present unlaid =>
      have hnone : missingMarker? line = none := by
        rw [missingMarker?_eq_none_iff]
        intro marker _
        exact Text.occurs_iff.2 (present marker)
      rw [readLine_of_unlaid unlaid, diagnose, hnone]
  | invalidNumber laid order valid invalid =>
      rw [readLine_of_preferred laid]
      exact sampleOfLayout_of_invalidField?
        (find?_not_eq_some_iff.2 ⟨_, _, order, valid, invalid⟩)
  | sample laid htime hrequests hmiss hload hcache hcore =>
      rw [readLine_of_preferred laid, sampleOfLayout, readField_of_some htime,
        readField_of_some hrequests, readField_of_some hmiss, readField_of_some hload,
        readField_of_some hcache, readField_of_some hcore]
      rfl

theorem exists_outcome (line : List Char) : ∃ result, Outcome line result := by
  by_cases hlaid : ∃ l : Layout, l.glue = line
  · obtain ⟨l, hl⟩ := Layout.exists_scan?_iff.2 hlaid
    have laid := Layout.preferred_of_scan? hl
    cases hbad : invalidField? l with
    | some field =>
        obtain ⟨_, _, order, valid, invalid⟩ := find?_not_eq_some_iff.1 hbad
        exact ⟨_, .invalidNumber laid order valid invalid⟩
    | none =>
        have haccepts := accepts_of_invalidField? hbad
        obtain ⟨_, htime⟩ := Option.isSome_iff_exists.1 (haccepts .time)
        obtain ⟨_, hrequests⟩ := Option.isSome_iff_exists.1 (haccepts .requests)
        obtain ⟨_, hmiss⟩ := Option.isSome_iff_exists.1 (haccepts .missRatio)
        obtain ⟨_, hload⟩ := Option.isSome_iff_exists.1 (haccepts .loadAdmit)
        obtain ⟨_, hcache⟩ := Option.isSome_iff_exists.1 (haccepts .cacheRate)
        obtain ⟨_, hcore⟩ := Option.isSome_iff_exists.1 (haccepts .coreRate)
        exact ⟨_, .sample laid htime hrequests hmiss hload hcache hcore⟩
  · cases hmissing : missingMarker? line with
    | some marker =>
        obtain ⟨_, _, order, present, absent⟩ := missingMarker?_eq_some_iff.1 hmissing
        exact ⟨_, .missingMarker order present absent⟩
    | none =>
        have hpresent := (missingMarker?_eq_none_iff line).1 hmissing
        exact ⟨_, .malformed (fun m => Text.occurs_iff.1 (hpresent m m.mem_all)) hlaid⟩

/-- Reading a line returns what the line comes to. -/
theorem readLine_eq_iff {line : List Char} {result : Except Fault Sample} :
    readLine line = result ↔ Outcome line result := by
  constructor
  · rintro rfl
    obtain ⟨result, h⟩ := exists_outcome line
    rwa [readLine_of_outcome h]
  · exact readLine_of_outcome

/-- A line comes to exactly one thing, which reading it returns. A line that lacks a marker does not
match the pattern; so no marker is reported missing from a line that matches, and a line that is
accepted has all of them. -/
theorem readLine_outcome (line : List Char) (h : '\n' ∉ line) :
    (∀ result, readLine line = result ↔ Outcome line result) ∧
      (∀ l : Layout, l.Preferred line ↔ search? linePattern line = some l.toMatch) ∧
      (∀ marker : Marker, ¬ marker.text.toList <:+: line → search? linePattern line = none) ∧
      (∀ marker : Marker, (search? linePattern line).isSome →
        readLine line ≠ .error (.missingMarker marker)) ∧
      ∀ (sample : Sample) (marker : Marker), readLine line = .ok sample →
        marker.text.toList <:+: line := by
  refine ⟨fun _ => readLine_eq_iff, fun _ => (Layout.search?_eq_some_iff_preferred h).symm,
    ?_, ?_, ?_⟩
  · intro marker absent
    rw [← Option.not_isSome_iff_eq_none, Layout.isSome_search?_iff h]
    exact unlaid_of_absent absent
  · intro marker hmatch hread
    cases readLine_eq_iff.1 hread with
    | missingMarker _ _ absent =>
        exact unlaid_of_absent absent ((Layout.isSome_search?_iff h).1 hmatch)
  · intro sample marker hread
    cases readLine_eq_iff.1 hread with
    | sample laid =>
        rw [← laid.1]
        exact occurs_of_glue _ marker

theorem readLine_outcome_of_two_faults :
    let line := "... #x @ y ms: miss_ratio = 0, load_admit = 1, cache_tp = 2, core_tp = 3".toList
    '\n' ∉ line ∧ Outcome line (.error (.invalidNumber .time ['y'])) := by
  intro line
  have h : '\n' ∉ line := by decide +kernel
  refine ⟨h, ((readLine_outcome line h).1 _).1 ?_⟩
  have hscan : Layout.scan? line = some ⟨"... ".toList, ['x'], ['y'], ": ".toList, ['0'], ['1'],
      ['2'], ['3']⟩ := by decide +kernel
  rw [readLine, hscan]
  rfl

end Progress

end BenchChart
