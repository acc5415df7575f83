import BenchChart.Proofs.Figure
import BenchChart.Proofs.Series.Built
import BenchChart.Proofs.Table

/-!
# Figures and tables of the same samples

The curves of a figure pair the times of a series with one column or with the sums of two, and a
table puts all columns beside each other. Each pairing ends with the shorter list, so that a column
out of step would cost samples without notice. In an aligned series none is: every curve has a point
and the table a line for each sample, in the order of the samples.
-/

namespace BenchChart

/-- The requests of a sample as a number on an axis. -/
def Sample.count (sample : Sample) : Binary64 := .ofNat sample.requests.toNat

/-- What the curves of a figure show of a sample, in the order of the panels. -/
def Sample.shown (sample : Sample) : List Binary64 :=
  [sample.count, sample.missRatio, sample.loadAdmit, sample.totalRate, sample.cacheRate,
    sample.coreRate]

def Figure.curves (figure : Figure) : List Curve := figure.panels.flatMap Panel.curves

namespace Figure

theorem zipWith_map_time (samples : List Sample) (value : Sample → Binary64) :
    List.zipWith Point.mk (samples.map Sample.time) (samples.map value) =
      samples.map fun sample => ⟨sample.time, value sample⟩ := by
  rw [List.zipWith_map, List.zipWith_self]

theorem label_curves (run : Run) (series : Series) (settings : Settings) :
    (ofRun run series settings).curves.map Curve.label =
      ["#4K-Reqs", "miss_ratio", "load_admit", "Total", "Cache", "Core"] := rfl

theorem points_curves (run : Run) (series : Series) (settings : Settings) :
    (ofRun run series settings).curves.map Curve.points =
      [series.requests.toList.map fun n => Binary64.ofNat n.toNat, series.missRatios.toList,
        series.loadAdmits.toList, series.totalRates, series.cacheRates.toList,
        series.coreRates.toList].map (List.zipWith Point.mk series.times.toList) := rfl

/-- Each curve shows its quantity of all samples at their times. -/
theorem points_curves_ofSamples (run : Run) (samples : List Sample) (settings : Settings) :
    (ofRun run (.ofSamples samples) settings).curves.map Curve.points =
      [Sample.count, Sample.missRatio, Sample.loadAdmit, Sample.totalRate, Sample.cacheRate,
        Sample.coreRate].map fun value =>
          samples.map fun sample => ⟨sample.time, value sample⟩ := by
  have hcounts : (samples.map Sample.requests).map (fun n => Binary64.ofNat n.toNat) =
      samples.map Sample.count := by
    rw [List.map_map]
    apply List.map_congr_left
    intro sample _
    rw [Function.comp_apply, Sample.count]
  rw [points_curves, Series.totalRates_ofSamples, Series.ofSamples_eq]
  simp only [hcounts, List.map_cons, List.map_nil, zipWith_map_time]

/-- The same panel by panel. -/
theorem points_panels_ofSamples (run : Run) (samples : List Sample) (settings : Settings) :
    (ofRun run (.ofSamples samples) settings).panels.map
        (fun panel => panel.curves.map Curve.points) =
      [[Sample.count], [Sample.missRatio], [Sample.loadAdmit],
        [Sample.totalRate, Sample.cacheRate, Sample.coreRate]].map
          (List.map fun value => samples.map fun sample => ⟨sample.time, value sample⟩) :=
  congrArg (fun points : List (List Point) =>
    [points.take 1, (points.drop 1).take 1, (points.drop 2).take 1,
    points.drop 3]) (points_curves_ofSamples run samples settings)

theorem exists_points_of_mem_curves {run : Run} {samples : List Sample} {settings : Settings}
    {curve : Curve} (h : curve ∈ (ofRun run (.ofSamples samples) settings).curves) :
    ∃ value : Sample → Binary64,
      curve.points = samples.map fun sample => ⟨sample.time, value sample⟩ := by
  have hpoints := List.mem_map_of_mem (f := Curve.points) h
  rw [points_curves_ofSamples, List.mem_map] at hpoints
  obtain ⟨value, -, hvalue⟩ := hpoints
  exact ⟨value, hvalue.symm⟩

theorem getElem?_points_curves (run : Run) {samples : List Sample} {i : Nat} {sample : Sample}
    (h : samples[i]? = some sample) (settings : Settings) :
    ((ofRun run (.ofSamples samples) settings).curves.map fun curve => curve.points[i]?) =
      sample.shown.map fun y => some ⟨sample.time, y⟩ := by
  have hpoints (curves : List Curve) :
      (curves.map fun curve => curve.points[i]?) = (curves.map Curve.points).map (·[i]?) := by
    rw [List.map_map]
    rfl
  rw [hpoints, points_curves_ofSamples]
  simp only [List.map_cons, List.map_nil, List.getElem?_map, h, Option.map_some, Sample.shown]

theorem getElem?_of_label_total (run : Run) (series : Series) (settings : Settings) {curve : Curve}
    (h : curve ∈ (ofRun run series settings).curves) (hlabel : curve.label = "Total") :
    (ofRun run series settings).curves[3]? = some curve := by
  obtain ⟨k, hk⟩ := List.mem_iff_getElem?.1 h
  have htotal : ["#4K-Reqs", "miss_ratio", "load_admit", "Total", "Cache", "Core"][k]? =
      some "Total" := by
    rw [← label_curves run series settings, List.getElem?_map, hk, Option.map_some, hlabel]
  have hthree : k = 3 := by
    rcases k with _ | _ | _ | _ | _ | _ | k <;> simp_all
  rw [← hthree, hk]

end Figure

/-- A figure and a table show the same samples, each at its place: a curve pairs the time of a
sample with one of its quantities, and the line of the table at that place is made of all of them
and of what the curve of the totals shows there. -/
theorem Figure.ofRun_agrees_with_table {series : Series} (h : series.Aligned) (run : Run)
    (settings : Settings) :
    let curves := (ofRun run series settings).curves
    curves.map Curve.label = ["#4K-Reqs", "miss_ratio", "load_admit", "Total", "Cache", "Core"] ∧
      (∀ curve ∈ curves, curve.points.length = series.size) ∧
      (Table.columnCells series).length = series.size ∧
      Text.segments (Table.ofSeries series) =
        Table.header :: (Table.columnCells series).map Table.row ++ [[]] ∧
      ∀ i < series.size, ∃ sample : Sample,
        (series.times[i]? = some sample.time ∧ series.requests[i]? = some sample.requests ∧
          series.missRatios[i]? = some sample.missRatio ∧
          series.loadAdmits[i]? = some sample.loadAdmit ∧
          series.cacheRates[i]? = some sample.cacheRate ∧
          series.coreRates[i]? = some sample.coreRate) ∧
        (curves.map fun curve => curve.points[i]?) =
          sample.shown.map (fun y => some ⟨sample.time, y⟩) ∧
        (Table.columnCells series)[i]? = some (Table.cells sample) ∧
        ∀ curve ∈ curves, curve.label = "Total" → ∃ p, curve.points[i]? = some p ∧
          p.y = sample.cacheRate + sample.coreRate ∧
          (Table.cells sample).getLast? = some (Table.style.write p.y) := by
  intro curves
  obtain ⟨samples, rfl⟩ : ∃ samples, series = .ofSamples samples :=
    ⟨series.samples, h.ofSamples_samples.symm⟩
  refine ⟨label_curves run _ settings, ?_, ?_, ?_, ?_⟩
  · intro curve hcurve
    have hpoints : curve.points ∈ curves.map Curve.points := List.mem_map_of_mem hcurve
    rw [points_curves_ofSamples, List.mem_map] at hpoints
    obtain ⟨value, -, hvalue⟩ := hpoints
    rw [← hvalue, List.length_map, Series.size_ofSamples]
  · rw [Table.columnCells_ofSamples, List.length_map, Series.size_ofSamples]
  · rw [Table.ofSeries_ofSamples, Table.segments_ofSamples,
      Table.columnCells_ofSamples, List.map_map]
    rfl
  · intro i hi
    rw [Series.size_ofSamples] at hi
    have hsample : samples[i]? = some samples[i] := List.getElem?_eq_getElem hi
    have hcolumns : (Series.ofSamples samples).sample? i = some samples[i] := by
      rw [h.sample?_eq, Series.samples_ofSamples, hsample]
    have hpoints := getElem?_points_curves run hsample settings
    refine ⟨samples[i], Series.sample?_eq_some_iff.1 hcolumns, hpoints, ?_, ?_⟩
    · rw [Table.columnCells_ofSamples, List.getElem?_map, hsample, Option.map_some]
    · intro curve hcurve hlabel
      refine ⟨⟨samples[i].time, samples[i].totalRate⟩, ?_, rfl, rfl⟩
      have hthird := getElem?_of_label_total run _ settings hcurve hlabel
      have htotal := congrArg (·[3]?) hpoints
      simp only [List.getElem?_map, hthird, Option.map_some] at htotal
      exact Option.some.inj htotal

/-- The largest count is shown as the nearest number, at a time that is NaN, and throughputs that
are too large together as an infinity. -/
theorem Figure.ofRun_agrees_with_table_of_extremes :
    let large := Binary64.ofNat (Binary64.twoPow 1023)
    let zero := Binary64.zero true
    let sample : Sample := ⟨.nan, 18446744073709551615, zero, .nan, large, large⟩
    let series := Series.ofSamples [⟨zero, 0, zero, zero, zero, zero⟩, sample]
    let figure := Figure.ofRun ⟨"100", "50", "80", "LRU"⟩ series Settings.default
    series.Aligned ∧ 1 < series.size ∧
      (figure.curves.map fun curve => curve.points[1]?) =
        [some ⟨.nan, Binary64.ofNat (Binary64.twoPow 64)⟩, some ⟨.nan, zero⟩, some ⟨.nan, .nan⟩,
          some ⟨.nan, .infinite false⟩, some ⟨.nan, large⟩, some ⟨.nan, large⟩] ∧
      (Table.columnCells series)[1]? = some (Table.cells sample) ∧
      (Table.cells sample).getLast? = some "inf".toList := by
  intro large zero sample series figure
  have haligned : series.Aligned := Series.aligned_ofSamples _
  obtain ⟨-, -, -, -, hsamples⟩ :=
    Figure.ofRun_agrees_with_table haligned ⟨"100", "50", "80", "LRU"⟩ Settings.default
  obtain ⟨found, hcolumns, hpoints, hcells, -⟩ := hsamples 1 (by decide)
  have hfound : found = sample := by
    have hplace := Series.sample?_eq_some_iff.2 hcolumns
    rw [haligned.sample?_eq, Series.samples_ofSamples, List.getElem?_cons_succ,
      List.getElem?_cons_zero, Option.some.injEq] at hplace
    exact hplace.symm
  rw [hfound] at hpoints hcells
  refine ⟨haligned, by decide, hpoints.trans ?_, hcells, ?_⟩
  · decide +kernel
  · decide +kernel

end BenchChart
