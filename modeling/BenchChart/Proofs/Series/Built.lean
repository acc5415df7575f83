import BenchChart.Proofs.Binary64.Arithmetic
import BenchChart.Proofs.Progress.Log
import Mathlib.Data.List.Forall2

/-!
# How a series comes about

A series starts without samples and grows by one sample at a time, or it is made of a list of
samples or of a log. `Built samples series` says that a series came about so, and from which samples
in which order. A series that was built holds just these samples, in aligned columns, and comparing
two such series column by column is comparing their samples one by one.
-/

namespace BenchChart

namespace Sample

/-- The numbers of a sample but for its requests. -/
def reals (sample : Sample) : List Binary64 :=
  [sample.time, sample.missRatio, sample.loadAdmit, sample.cacheRate, sample.coreRate]

/-- Whether all numbers of two samples are the same as numbers. -/
def Same (a b : Sample) : Prop :=
  a.requests = b.requests ∧ List.Forall₂ Binary64.SameNumber a.reals b.reals

theorem equals_iff {a b : Sample} : a.equals b = true ↔ a.Same b := by
  simp only [equals, Same, reals, Bool.and_eq_true, beq_iff_eq, Binary64.equals_iff,
    List.forall₂_cons, List.Forall₂.nil, and_true]
  tauto

theorem Same.ne_nan {a b : Sample} (h : a.Same b) {x : Binary64} (hx : x ∈ a.reals) : x ≠ .nan := by
  have hreals : List.Forall₂ (fun x y => x ≠ .nan ∧ Binary64.SameNumber x y) a.reals b.reals := by
    refine h.2.imp fun x y hxy => ⟨?_, hxy⟩
    rcases hxy with ⟨hne, -⟩ | ⟨s, t, rfl, -⟩
    · exact hne
    · exact nofun
  exact ((List.forall₂_and_left _ _).1 hreals).1 x hx

end Sample

namespace Series

/-- The ways in which a series comes about, each with all samples that went into the series. -/
inductive Built : List Sample → Series → Prop where
  | empty : Built [] Series.empty
  | push {samples : List Sample} {series : Series} (built : Built samples series)
      (sample : Sample) : Built (samples ++ [sample]) (series.push sample)
  /-- All samples of a list, such as some of those of another series, or all of them twice. -/
  | collect (samples : List Sample) : Built samples (ofSamples samples)
  /-- The samples that the progress lines of a log give. -/
  | parse {text : List Char} {samples : List Sample} {series : Series}
      (given : Progress.Gives (Progress.progressLines text) samples)
      (parsed : Progress.parse text = .ok series) : Built samples series

theorem Built.eq_ofSamples {samples : List Sample} {series : Series} (h : Built samples series) :
    series = ofSamples samples := by
  induction h with
  | empty => rfl
  | push _ sample ih => rw [ih, ofSamples_append_singleton]
  | collect samples => rfl
  | parse given parsed =>
      obtain ⟨others, hothers, rfl⟩ := Progress.parse_eq_ok_iff.1 parsed
      rw [hothers.unique given]

theorem sample?_eq_none {series : Series} {i : Nat} (h : series.size ≤ i) :
    series.sample? i = none := by
  have htime : series.times[i]? = none := Array.getElem?_eq_none h
  rw [sample?, htime]
  rfl

theorem Aligned.sample?_eq {series : Series} (h : series.Aligned) (i : Nat) :
    series.sample? i = series.samples[i]? := by
  rcases Nat.lt_or_ge i series.size with hi | hi
  · exact (h.getElem?_samples hi).symm
  · rw [sample?_eq_none hi, List.getElem?_eq_none (by rwa [h.length_samples])]

/-- Comparing columns is comparing samples. -/
theorem equals_ofSamples {samples others : List Sample} :
    (ofSamples samples).equals (ofSamples others) = true ↔
      List.Forall₂ (fun a b => a.equals b = true) samples others := by
  rw [ofSamples_eq, ofSamples_eq, equals]
  induction samples generalizing others with
  | nil =>
      cases others with
      | nil => simp [columnEquals]
      | cons b others => simp [columnEquals, List.forall₂_nil_left_iff]
  | cons a samples ih =>
      cases others with
      | nil => simp [columnEquals, List.forall₂_nil_right_iff]
      | cons b others =>
          rw [List.forall₂_cons, ← ih]
          simp only [columnEquals, Sample.equals, List.map_cons, Bool.and_eq_true, beq_iff_eq,
            Array.mk.injEq, List.cons.injEq]
          tauto

/-- What a series that came about from some samples promises about them. -/
structure Records (samples : List Sample) (series : Series) : Prop where
  aligned : series.Aligned
  size_eq : series.size = samples.length
  samples_eq : series.samples = samples
  recollected : ofSamples series.samples = series
  sample?_of_lt : ∀ i, i < series.size → series.sample? i = samples[i]?
  sample?_of_le : ∀ i, series.size ≤ i → series.sample? i = none
  size_push : ∀ sample, (series.push sample).size = series.size + 1
  sample?_push : ∀ sample, (series.push sample).sample? series.size = some sample
  sample?_kept : ∀ sample i, i < series.size → (series.push sample).sample? i = series.sample? i

theorem Built.records {samples : List Sample} {series : Series} (h : Built samples series) :
    Records samples series := by
  obtain rfl := h.eq_ofSamples
  have haligned := aligned_ofSamples samples
  exact {
    aligned := haligned
    size_eq := size_ofSamples samples
    samples_eq := samples_ofSamples samples
    recollected := haligned.ofSamples_samples
    sample?_of_lt := fun i _ => by rw [haligned.sample?_eq, samples_ofSamples]
    sample?_of_le := fun i hi => sample?_eq_none hi
    size_push := Series.size_push _
    sample?_push := sample?_push_size haligned
    sample?_kept := fun sample _ hi => sample?_push_of_lt haligned sample hi }

/-- Two series that were built are equal if they have the same size and equal samples. -/
theorem Built.equals_iff {samples others : List Sample} {series other : Series}
    (h : Built samples series) (hother : Built others other) :
    series.equals other = true ↔ series.size = other.size ∧
      ∀ i a b, series.sample? i = some a → other.sample? i = some b → a.Same b := by
  obtain rfl := h.eq_ofSamples
  obtain rfl := hother.eq_ofSamples
  rw [equals_ofSamples, List.forall₂_iff_get, size_ofSamples, size_ofSamples]
  simp only [(aligned_ofSamples _).sample?_eq, samples_ofSamples, List.getElem?_eq_some_iff,
    List.get_eq_getElem, Sample.equals_iff]
  constructor
  · rintro ⟨hlength, hsame⟩
    refine ⟨hlength, ?_⟩
    rintro i a b ⟨hi, rfl⟩ ⟨hi', rfl⟩
    exact hsame i hi hi'
  · rintro ⟨hlength, hsame⟩
    exact ⟨hlength, fun i hi hi' => hsame i _ _ ⟨hi, rfl⟩ ⟨hi', rfl⟩⟩

/-- A series that came about in any way records its samples, and it is equal to another one exactly
if their samples are the same as numbers, so never if it holds a NaN. -/
theorem Built.faithful {samples : List Sample} {series : Series} (h : Built samples series) :
    Records samples series ∧
      (∀ a b : Sample, a.equals b = true ↔ a.Same b) ∧
      ∀ others other, Built others other →
        (series.equals other = true ↔ series.size = other.size ∧
          ∀ i a b, series.sample? i = some a → other.sample? i = some b → a.Same b) ∧
        ∀ sample ∈ samples, Binary64.nan ∈ sample.reals → series.equals other = false := by
  refine ⟨h.records, fun a b => Sample.equals_iff, ?_⟩
  intro others other hother
  refine ⟨h.equals_iff hother, ?_⟩
  intro sample hsample hnan
  rw [Bool.eq_false_iff]
  intro hequal
  obtain ⟨hsize, hsame⟩ := (h.equals_iff hother).1 hequal
  obtain ⟨i, hi⟩ := List.mem_iff_getElem?.1 hsample
  have hlt : i < series.size := by
    rw [h.records.size_eq]
    exact (List.getElem?_eq_some_iff.1 hi).1
  obtain ⟨b, hb⟩ := hother.records.aligned.exists_sample? (hsize ▸ hlt)
  have ha : series.sample? i = some sample := by rw [h.records.sample?_of_lt i hlt, hi]
  exact (hsame i sample b ha hb).ne_nan hnan rfl

/-- Read from a log, repeated and pushed: samples that differ in the sign of a zero are equal, and
one with a NaN makes a series differ from itself. -/
theorem Built.faithful_of_repeated :
    let text := "... #7 @ 0 ms miss_ratio = 1, load_admit = -0, cache_tp = 0, core_tp = 0".toList
    let one := Binary64.ofNat 1
    let sample : Sample :=
      ⟨Binary64.zero false, 7, one, Binary64.zero true, Binary64.zero false, Binary64.zero false⟩
    let other : Sample := { sample with loadAdmit := Binary64.zero false }
    let log := ofSamples [sample]
    Built [sample] log ∧ Progress.parse text = .ok log ∧
      (ofSamples (log.samples ++ log.samples)).equals (log.push other) = true ∧
      ((log.push other).push { other with coreRate := .nan }).equals
        ((log.push other).push { other with coreRate := .nan }) = false ∧
      (log.push other).sample? 1 = some other ∧ (log.push other).sample? 2 = none := by
  intro text one sample other log
  have hparse : Progress.parse text = .ok log := by decide +kernel
  have hlog : Built [sample] log := by
    obtain ⟨samples, given, hsamples⟩ := Progress.parse_eq_ok_iff.1 hparse
    have hsame := congrArg Series.samples hsamples
    rw [samples_ofSamples, samples_ofSamples] at hsame
    rw [hsame]
    exact .parse given hparse
  have hpush : Built [sample, other] (log.push other) := hlog.push other
  have hnan : Built [sample, other, { other with coreRate := .nan }]
      ((log.push other).push { other with coreRate := .nan }) := hpush.push _
  obtain ⟨hrecords, -⟩ := hpush.faithful
  obtain ⟨-, -, hequals⟩ := hnan.faithful
  refine ⟨hlog, hparse, by decide +kernel, ?_, ?_, ?_⟩
  · apply (hequals _ _ hnan).2 { other with coreRate := .nan }
    · exact List.mem_append_right [sample, other] List.mem_cons_self
    · exact List.mem_append_right [_, _, _, _] List.mem_cons_self
  · exact hrecords.sample?_of_lt 1 (by decide)
  · exact hrecords.sample?_of_le 2 (by decide)

end Series

end BenchChart
