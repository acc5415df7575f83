import BenchChart.Figure
import BenchChart.Proofs.Range.Bounds
import BenchChart.Proofs.Series

/-!
# The ranges of a figure

Every axis of a figure has a usable range: its limit, if that is usable, or else one that contains
every finite value which any curve shows on it. Only values that no axis can show are left out, and
then the range is `0..1`. Infinities and NaN have no influence.
-/

namespace BenchChart

/-- What the range of an axis promises, for a limit that may be given and the values shown. -/
structure Range.Fits (limit : Option Range) (values : List Binary64) (r : Range) : Prop where
  isUsable : r.isUsable = true
  limited : ∀ l, limit = some l → l.isUsable = true → r = l
  unfit : (∀ l, limit = some l → l.isUsable = false) → Unfit values → r = unit
  contains : (∀ l, limit = some l → l.isUsable = false) → ¬ Unfit values →
    ∀ v ∈ values, v.isFinite = true → r.Contains v
  finiteOnly : r = Panel.axis limit (values.filter Binary64.isFinite)

namespace Panel

theorem axis_of_unusable {limit : Option Range} (h : ∀ l, limit = some l → l.isUsable = false)
    (values : List Binary64) : axis limit values = Range.padded (Range.finiteBounds values) := by
  cases limit with
  | none => rfl
  | some l => exact axis_of_not_isUsable (h l rfl) values

theorem axis_filter (limit : Option Range) (values : List Binary64) :
    axis limit (values.filter Binary64.isFinite) = axis limit values := by
  rw [axis, Range.finiteBounds_filter, axis]

theorem isUsable_axis (limit : Option Range) (values : List Binary64) :
    (axis limit values).isUsable = true := by
  by_cases h : ∃ l, limit = some l ∧ l.isUsable = true
  · obtain ⟨l, rfl, hl⟩ := h
    rwa [axis_of_isUsable hl]
  · have hunusable : ∀ l, limit = some l → l.isUsable = false :=
      fun l hl => Bool.eq_false_iff.2 fun husable => h ⟨l, hl, husable⟩
    rw [axis_of_unusable hunusable]
    exact Range.isUsable_padded _

theorem fits_axis (limit : Option Range) (values : List Binary64) :
    Range.Fits limit values (axis limit values) where
  isUsable := isUsable_axis limit values
  limited := by
    rintro l rfl hl
    exact axis_of_isUsable hl values
  unfit h hunfit := by rw [axis_of_unusable h, Range.padded_of_unfit hunfit]
  contains h hfit v hv hfinite := by
    rw [axis_of_unusable h]
    exact Range.contains_padded hfit hv hfinite
  finiteOnly := (axis_filter limit values).symm

end Panel

/-- A curve shows all its values if there is a time for each. -/
theorem Curve.values_ofValues (label : String) (color : Color) {times values : List Binary64}
    (h : times.length = values.length) :
    (Curve.ofValues label color times values).values = values := by
  rw [Curve.values, ofValues, List.map_zipWith]
  induction times generalizing values with
  | nil => exact (List.length_eq_zero_iff.1 h.symm).symm
  | cons time times ih =>
      cases values with
      | nil => cases h
      | cons value values => rw [List.zipWith_cons_cons, ih (Nat.succ.inj h)]

namespace Figure

/-- The ranges of a figure are usable. The times share a range without a limit, and each panel has
one for the values of all its curves, which are the columns of the series. -/
theorem ofRun_ranges (run : Run) (series : Series) (settings : Settings) :
    Range.Fits none series.times.toList (ofRun run series settings).xRange ∧
      List.Forall₂
        (fun panel limit => Range.Fits limit (panel.curves.flatMap Curve.values) panel.yRange)
        (ofRun run series settings).panels
        [none, settings.missRatioLimit, settings.loadAdmitLimit, settings.rateLimit] ∧
      (series.Aligned →
        (ofRun run series settings).panels.map (fun panel => panel.curves.map Curve.values) =
          [[series.requests.toList.map fun n => Binary64.ofNat n.toNat],
            [series.missRatios.toList], [series.loadAdmits.toList],
            [series.totalRates, series.cacheRates.toList, series.coreRates.toList]]) := by
  refine ⟨Panel.fits_axis none _, ?_, ?_⟩
  · exact .cons (Panel.fits_axis _ _) <| .cons (Panel.fits_axis _ _) <|
      .cons (Panel.fits_axis _ _) <| .cons (Panel.fits_axis _ _) .nil
  · intro h
    have hcounts : series.times.toList.length =
        (series.requests.toList.map fun n => Binary64.ofNat n.toNat).length := by
      rw [List.length_map]
      exact h.requests.symm
    have htotals : series.times.toList.length = series.totalRates.length := by
      rw [Series.totalRates, Rate.total, List.length_zipWith, Array.length_toList,
        Array.length_toList, Array.length_toList, h.cacheRates, h.coreRates, Nat.min_self]
      rfl
    simp only [ofRun, Panel.requests, Panel.missRatio, Panel.loadAdmit, Panel.throughput,
      Panel.plain, List.map_cons, List.map_nil]
    rw [Curve.values_ofValues _ _ hcounts, Curve.values_ofValues _ _ h.missRatios.symm,
      Curve.values_ofValues _ _ h.loadAdmits.symm, Curve.values_ofValues _ _ htotals,
      Curve.values_ofValues _ _ h.cacheRates.symm, Curve.values_ofValues _ _ h.coreRates.symm]

/-- Throughputs that are too large together are on the axis one by one. -/
theorem ofRun_ranges_of_overflow :
    let large := Binary64.ofNat (Binary64.twoPow 1023)
    let series := Series.ofSamples
      [⟨.nan, 7, .infinite true, .nan, large, large⟩,
        ⟨Binary64.ofNat 5, 9, Binary64.zero true, .infinite false, .nan, Binary64.ofNat 1⟩]
    let panel := Panel.throughput series none
    series.totalRates = [.infinite false, .nan] ∧ panel.yRange.Contains large ∧
      panel.yRange.Contains (Binary64.ofNat 1) ∧
      panel.curves.map Curve.values =
        [series.totalRates, series.cacheRates.toList, series.coreRates.toList] := by
  intro large series panel
  obtain ⟨-, hfits, hvalues⟩ := ofRun_ranges ⟨"100", "50", "80", "LRU"⟩ series Settings.default
  obtain _ | ⟨-, _ | ⟨-, _ | ⟨-, _ | ⟨hpanel, -⟩⟩⟩⟩ := hfits
  have hfit : ¬ Range.Unfit (panel.curves.flatMap Curve.values) := by
    intro hunfit
    have hunit := Range.padded_of_unfit hunfit
    revert hunit
    decide +kernel
  have hlimit : ∀ l : Range, Settings.default.rateLimit = some l → l.isUsable = false := by
    intro l hl
    cases hl
  have hcontains := hpanel.contains hlimit hfit
  have hcurves := hvalues (Series.aligned_ofSamples _)
  refine ⟨by decide +kernel, hcontains large ?_ (by decide +kernel),
    hcontains (Binary64.ofNat 1) ?_ (by decide +kernel), ?_⟩
  · decide +kernel
  · decide +kernel
  · exact Option.some.inj (congrArg List.getLast? hcurves)

end Figure

end BenchChart
