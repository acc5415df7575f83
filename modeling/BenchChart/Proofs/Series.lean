import BenchChart.Series
import Mathlib.Data.List.Basic

/-!
# A series as a list of samples

The columns of a series that is built sample by sample have the same length, and reading it row by
row gives back the samples that it was built from.
-/

namespace BenchChart

namespace Series

/-- All columns have a number for each sample. -/
structure Aligned (series : Series) : Prop where
  requests : series.requests.size = series.size
  missRatios : series.missRatios.size = series.size
  loadAdmits : series.loadAdmits.size = series.size
  cacheRates : series.cacheRates.size = series.size
  coreRates : series.coreRates.size = series.size

theorem aligned_empty : empty.Aligned := ⟨rfl, rfl, rfl, rfl, rfl⟩

theorem Aligned.push {series : Series} (h : series.Aligned) (sample : Sample) :
    (series.push sample).Aligned := by
  obtain ⟨hrequests, hmiss, hload, hcache, hcore⟩ := h
  constructor <;> simp_all [Series.push, size]

theorem sample?_push_of_lt {series : Series} (h : series.Aligned) (sample : Sample) {i : Nat}
    (hi : i < series.size) : (series.push sample).sample? i = series.sample? i := by
  have htime : i < series.times.size := hi
  have hrequests : i < series.requests.size := by rwa [h.requests]
  have hmiss : i < series.missRatios.size := by rwa [h.missRatios]
  have hload : i < series.loadAdmits.size := by rwa [h.loadAdmits]
  have hcache : i < series.cacheRates.size := by rwa [h.cacheRates]
  have hcore : i < series.coreRates.size := by rwa [h.coreRates]
  simp only [sample?, push, Array.getElem?_push_lt, *, Array.getElem?_eq_getElem]

theorem sample?_push_size {series : Series} (h : series.Aligned) (sample : Sample) :
    (series.push sample).sample? series.size = some sample := by
  have hrequests : (series.requests.push sample.requests)[series.size]? = some sample.requests := by
    rw [← h.requests, Array.getElem?_push_size]
  have hmiss : (series.missRatios.push sample.missRatio)[series.size]? =
      some sample.missRatio := by
    rw [← h.missRatios, Array.getElem?_push_size]
  have hload : (series.loadAdmits.push sample.loadAdmit)[series.size]? =
      some sample.loadAdmit := by
    rw [← h.loadAdmits, Array.getElem?_push_size]
  have hcache : (series.cacheRates.push sample.cacheRate)[series.size]? =
      some sample.cacheRate := by
    rw [← h.cacheRates, Array.getElem?_push_size]
  have hcore : (series.coreRates.push sample.coreRate)[series.size]? = some sample.coreRate := by
    rw [← h.coreRates, Array.getElem?_push_size]
  have htime : (series.times.push sample.time)[series.size]? = some sample.time :=
    Array.getElem?_push_size
  simp [sample?, push, htime, hrequests, hmiss, hload, hcache, hcore]

theorem samples_push {series : Series} (h : series.Aligned) (sample : Sample) :
    (series.push sample).samples = series.samples ++ [sample] := by
  rw [samples, size_push, List.range_succ, List.filterMap_append, samples]
  congr 1
  · apply List.filterMap_congr
    intro i hi
    exact sample?_push_of_lt h sample (List.mem_range.1 hi)
  · simp [sample?_push_size h sample]

theorem samples_foldl_push {series : Series} (h : series.Aligned) (samples : List Sample) :
    (samples.foldl push series).samples = series.samples ++ samples := by
  induction samples generalizing series with
  | nil => simp
  | cons sample rest ih =>
      rw [List.foldl_cons, ih (h.push sample), samples_push h]
      simp

/-- Reading a series row by row gives the samples that it was built from. -/
theorem samples_ofSamples (samples : List Sample) : (ofSamples samples).samples = samples := by
  rw [ofSamples, samples_foldl_push aligned_empty, samples_empty, List.nil_append]

theorem size_ofSamples (samples : List Sample) : (ofSamples samples).size = samples.length := by
  have hfold : ∀ series : Series,
      (samples.foldl push series).size = series.size + samples.length := by
    induction samples with
    | nil => simp
    | cons sample rest ih =>
        intro series
        rw [List.foldl_cons, ih, size_push, List.length_cons]
        omega
  rw [ofSamples, hfold, size_empty, Nat.zero_add]

theorem ofSamples_eq (samples : List Sample) : ofSamples samples = {
    times := (samples.map Sample.time).toArray
    requests := (samples.map Sample.requests).toArray
    missRatios := (samples.map Sample.missRatio).toArray
    loadAdmits := (samples.map Sample.loadAdmit).toArray
    cacheRates := (samples.map Sample.cacheRate).toArray
    coreRates := (samples.map Sample.coreRate).toArray } := by
  -- The fold goes on from any series, so this is about all of them.
  have hfold : ∀ series : Series, samples.foldl push series = {
      times := series.times ++ (samples.map Sample.time).toArray
      requests := series.requests ++ (samples.map Sample.requests).toArray
      missRatios := series.missRatios ++ (samples.map Sample.missRatio).toArray
      loadAdmits := series.loadAdmits ++ (samples.map Sample.loadAdmit).toArray
      cacheRates := series.cacheRates ++ (samples.map Sample.cacheRate).toArray
      coreRates := series.coreRates ++ (samples.map Sample.coreRate).toArray } := by
    induction samples with
    | nil => simp
    | cons sample rest ih =>
        intro series
        rw [List.foldl_cons, ih]
        simp [push]
  rw [ofSamples, hfold]
  simp [empty]

theorem aligned_ofSamples (samples : List Sample) : (ofSamples samples).Aligned := by
  rw [ofSamples_eq]
  constructor <;> simp [size]

/-- A sample is at a place if each of its numbers is at that place of its column. -/
theorem sample?_eq_some_iff {series : Series} {i : Nat} {sample : Sample} :
    series.sample? i = some sample ↔
      series.times[i]? = some sample.time ∧ series.requests[i]? = some sample.requests ∧
        series.missRatios[i]? = some sample.missRatio ∧
        series.loadAdmits[i]? = some sample.loadAdmit ∧
        series.cacheRates[i]? = some sample.cacheRate ∧
        series.coreRates[i]? = some sample.coreRate := by
  obtain ⟨time, requests, missRatio, loadAdmit, cacheRate, coreRate⟩ := sample
  simp only [sample?, Option.bind_eq_bind, Option.pure_def, Option.bind_eq_some_iff,
    Option.some.injEq, Sample.mk.injEq]
  constructor
  · rintro ⟨_, h1, _, h2, _, h3, _, h4, _, h5, _, h6, rfl, rfl, rfl, rfl, rfl, rfl⟩
    exact ⟨h1, h2, h3, h4, h5, h6⟩
  · rintro ⟨h1, h2, h3, h4, h5, h6⟩
    exact ⟨_, h1, _, h2, _, h3, _, h4, _, h5, _, h6, rfl, rfl, rfl, rfl, rfl, rfl⟩

section Aligned

variable {series : Series} (h : series.Aligned)
include h

theorem Aligned.exists_sample? {i : Nat} (hi : i < series.size) :
    ∃ sample, series.sample? i = some sample := by
  have htime : i < series.times.size := hi
  have hrequests : i < series.requests.size := by rwa [h.requests]
  have hmiss : i < series.missRatios.size := by rwa [h.missRatios]
  have hload : i < series.loadAdmits.size := by rwa [h.loadAdmits]
  have hcache : i < series.cacheRates.size := by rwa [h.cacheRates]
  have hcore : i < series.coreRates.size := by rwa [h.coreRates]
  refine ⟨⟨series.times[i], series.requests[i], series.missRatios[i], series.loadAdmits[i],
    series.cacheRates[i], series.coreRates[i]⟩, ?_⟩
  rw [sample?_eq_some_iff]
  simp

theorem Aligned.samples_eq : series.samples = (List.range series.size).map fun i =>
    (series.sample? i).getD default := by
  rw [samples, ← List.filterMap_eq_map]
  apply List.filterMap_congr
  intro i hi
  obtain ⟨sample, hsample⟩ := h.exists_sample? (List.mem_range.1 hi)
  rw [Function.comp_apply, hsample, Option.getD_some]

theorem Aligned.length_samples : series.samples.length = series.size := by
  rw [h.samples_eq, List.length_map, List.length_range]

theorem Aligned.getElem?_samples {i : Nat} (hi : i < series.size) :
    series.samples[i]? = series.sample? i := by
  obtain ⟨sample, hsample⟩ := h.exists_sample? hi
  rw [h.samples_eq, List.getElem?_map, List.getElem?_range hi, Option.map_some, hsample,
    Option.getD_some]

/-- A column that has a number of each sample at its place is made of these numbers. -/
theorem Aligned.map_samples {α : Type} {column : Array α} {f : Sample → α}
    (hsize : column.size = series.size)
    (hget : ∀ i sample, series.sample? i = some sample → column[i]? = some (f sample)) :
    series.samples.map f = column.toList := by
  apply List.ext_getElem?
  intro i
  have hcolumn : column.toList[i]? = column[i]? := by simp
  rw [List.getElem?_map, hcolumn]
  by_cases hi : i < series.size
  · obtain ⟨sample, hsample⟩ := h.exists_sample? hi
    rw [h.getElem?_samples hi, hsample, hget i sample hsample, Option.map_some]
  · have hlength := h.length_samples
    rw [List.getElem?_eq_none (by omega), Array.getElem?_eq_none (by omega), Option.map_none]

theorem Aligned.ofSamples_samples : ofSamples series.samples = series := by
  have htimes := h.map_samples rfl fun _ _ hs => (sample?_eq_some_iff.1 hs).1
  have hrequests := h.map_samples h.requests fun _ _ hs => (sample?_eq_some_iff.1 hs).2.1
  have hmiss := h.map_samples h.missRatios fun _ _ hs => (sample?_eq_some_iff.1 hs).2.2.1
  have hload := h.map_samples h.loadAdmits fun _ _ hs => (sample?_eq_some_iff.1 hs).2.2.2.1
  have hcache := h.map_samples h.cacheRates fun _ _ hs => (sample?_eq_some_iff.1 hs).2.2.2.2.1
  have hcore := h.map_samples h.coreRates fun _ _ hs => (sample?_eq_some_iff.1 hs).2.2.2.2.2
  rw [ofSamples_eq, htimes, hrequests, hmiss, hload, hcache, hcore]

end Aligned

end Series

end BenchChart
