import BenchChart.Proofs.Range
import Mathlib.Data.List.Induction

/-!
# The range of values

The bounds of values are the least and the greatest of those that are finite. Values are `Unfit` if
no axis can show them: there is none that is finite, or they lie too far apart, or they are one
number with a window that is too large. The range of unfit values is `0..1`, and that of all others
contains every finite value.
-/

namespace BenchChart

namespace Range

open Binary64 hiding add sub mul div neg abs min max floor?

variable {values : List Binary64} {r : Range}

/-- The ends are the least and the greatest of the finite values. -/
structure IsBounds (values : List Binary64) (r : Range) : Prop where
  lo_mem : r.lo ∈ values
  hi_mem : r.hi ∈ values
  lo_isFinite : r.lo.isFinite = true
  hi_isFinite : r.hi.isFinite = true
  contains : ∀ v ∈ values, v.isFinite = true → r.Contains v

/-- No axis can show the values. -/
inductive Unfit (values : List Binary64) : Prop where
  /-- There is no finite value. -/
  | none (none : ∀ v ∈ values, v.isFinite = false)
  /-- The greatest value and the least one are too far apart. -/
  | wide {r : Range} (bounds : IsBounds values r) (span : (r.hi - r.lo).isFinite = false)
  /-- All finite values are one number, and its window is too large. -/
  | single {v : Binary64} (mem : v ∈ values) (finite : v.isFinite = true)
      (same : ∀ w ∈ values, w.isFinite = true → w.equals v = true)
      (large : ¬ ((window v).lo.isFinite = true ∧ (window v).hi.isFinite = true))

theorem IsBounds.exists_units (h : IsBounds values r) :
    ∃ lo hi, r.lo.units? = some lo ∧ r.hi.units? = some hi ∧ lo ≤ hi := by
  obtain ⟨lo, hlo⟩ := isFinite_iff.1 h.lo_isFinite
  obtain ⟨hi, hhi⟩ := isFinite_iff.1 h.hi_isFinite
  exact ⟨lo, hi, hlo, hhi, ((contains_iff hlo hhi hhi).1 (h.contains _ h.hi_mem h.hi_isFinite)).1⟩

theorem isBounds_singleton {v : Binary64} (hv : v.isFinite = true) : IsBounds [v] ⟨v, v⟩ := by
  obtain ⟨n, hn⟩ := isFinite_iff.1 hv
  refine ⟨List.mem_singleton_self v, List.mem_singleton_self v, hv, hv, ?_⟩
  intro w hw _
  rw [List.mem_singleton.1 hw, contains_iff hn hn hn]
  omega

/-- One more value moves the ends as far as it needs. -/
theorem IsBounds.include (h : IsBounds values r) {v : Binary64} (hv : v.isFinite = true) :
    IsBounds (values ++ [v]) ⟨r.lo.min v, r.hi.max v⟩ := by
  obtain ⟨lo, hi, hlo, hhi, hle⟩ := h.exists_units
  obtain ⟨n, hn⟩ := isFinite_iff.1 hv
  have hmin := units?_min hlo hn
  have hmax := units?_max hhi hn
  refine ⟨?_, ?_, isFinite_of_units? hmin, isFinite_of_units? hmax, ?_⟩
  · rw [Binary64.min]
    split
    · simp
    · exact List.mem_append_left _ h.lo_mem
  · rw [Binary64.max]
    split
    · simp
    · exact List.mem_append_left _ h.hi_mem
  · intro w hw hfinite
    obtain ⟨k, hk⟩ := isFinite_iff.1 hfinite
    rw [contains_iff hmin hmax hk]
    rcases List.mem_append.1 hw with hw | hw
    · have hcontains := (contains_iff hlo hhi hk).1 (h.contains w hw hfinite)
      omega
    · rw [List.mem_singleton.1 hw, hn, Option.some.injEq] at hk
      omega

theorem foldl_include? (h : ∀ v ∈ values, v.isFinite = true) :
    (values = [] ∧ values.foldl include? none = none) ∨
      ∃ r, values.foldl include? none = some r ∧ IsBounds values r := by
  induction values using List.reverseRecOn with
  | nil => exact .inl ⟨rfl, rfl⟩
  | append_singleton values v ih =>
      right
      have hv : v.isFinite = true := h v (by simp)
      rw [List.foldl_append]
      rcases ih fun w hw => h w (List.mem_append_left _ hw) with ⟨rfl, -⟩ | ⟨r, hr, hbounds⟩
      · exact ⟨⟨v, v⟩, rfl, isBounds_singleton hv⟩
      · rw [hr]
        exact ⟨_, rfl, hbounds.include hv⟩

theorem isBounds_filter_iff : IsBounds (values.filter isFinite) r ↔ IsBounds values r := by
  constructor
  · intro h
    refine ⟨(List.mem_filter.1 h.lo_mem).1, (List.mem_filter.1 h.hi_mem).1, h.lo_isFinite,
      h.hi_isFinite, ?_⟩
    intro v hv hfinite
    exact h.contains v (List.mem_filter.2 ⟨hv, hfinite⟩) hfinite
  · intro h
    refine ⟨List.mem_filter.2 ⟨h.lo_mem, h.lo_isFinite⟩,
      List.mem_filter.2 ⟨h.hi_mem, h.hi_isFinite⟩, h.lo_isFinite, h.hi_isFinite, ?_⟩
    intro v hv hfinite
    exact h.contains v (List.mem_filter.1 hv).1 hfinite

/-- Either no value is finite and there are no bounds, or the bounds are those of the values. -/
theorem finiteBounds_cases (values : List Binary64) :
    ((∀ v ∈ values, v.isFinite = false) ∧ finiteBounds values = none) ∨
      ∃ r, finiteBounds values = some r ∧ IsBounds values r := by
  have hfinite : ∀ v ∈ values.filter isFinite, v.isFinite = true :=
    fun v hv => (List.mem_filter.1 hv).2
  rcases foldl_include? hfinite with ⟨hnil, hnone⟩ | ⟨r, hr, hbounds⟩
  · left
    refine ⟨?_, hnone⟩
    intro v hv
    rw [List.filter_eq_nil_iff] at hnil
    exact Bool.eq_false_iff.2 (hnil v hv)
  · exact .inr ⟨r, hr, isBounds_filter_iff.1 hbounds⟩

theorem IsBounds.units_eq {r' : Range} (h : IsBounds values r) (h' : IsBounds values r')
    {lo hi : Int}
    (hlo : r.lo.units? = some lo) (hhi : r.hi.units? = some hi) :
    r'.lo.units? = some lo ∧ r'.hi.units? = some hi := by
  obtain ⟨lo', hi', hlo', hhi', -⟩ := h'.exists_units
  have hloIn := (contains_iff hlo hhi hlo').1 (h.contains _ h'.lo_mem h'.lo_isFinite)
  have hhiIn := (contains_iff hlo hhi hhi').1 (h.contains _ h'.hi_mem h'.hi_isFinite)
  have hloIn' := (contains_iff hlo' hhi' hlo).1 (h'.contains _ h.lo_mem h.lo_isFinite)
  have hhiIn' := (contains_iff hlo' hhi' hhi).1 (h'.contains _ h.hi_mem h.hi_isFinite)
  obtain rfl : lo' = lo := by omega
  obtain rfl : hi' = hi := by omega
  exact ⟨hlo', hhi'⟩

theorem abs_eq_of_units? {x y : Binary64} {n : Int} (hx : x.units? = some n)
    (hy : y.units? = some n) : x.abs = y.abs := by
  obtain ⟨s, k, hk, rfl, rfl⟩ := units?_eq_some_iff.1 hx
  obtain ⟨t, l, hl, rfl, hsame⟩ := units?_eq_some_iff.1 hy
  have hkl := congrArg Int.natAbs hsame
  rw [natAbs_signed, natAbs_signed] at hkl
  subst hkl
  rfl

/-- Around bounds that are one number, the margins are those of its window. -/
theorem isUsable_widen_iff {lo : Int} (hlo : r.lo.units? = some lo) (hhi : r.hi.units? = some lo)
    {v : Binary64} (hv : v.units? = some lo) :
    r.widen.isUsable = true ↔
      (window v).lo.isFinite = true ∧ (window v).hi.isFinite = true := by
  obtain ⟨p, hp, hle, hge⟩ := units?_windowPad hv
  have hpad : r.pad = (v.abs * margin).max (Binary64.ofNat 1) := by
    rw [pad_of_eq hlo hhi rfl, abs_eq_of_units? hlo hv]
  have hleft : (r.lo - r.pad).isFinite = (window v).lo.isFinite := by
    rw [window, isFinite_eq_isSome, isFinite_eq_isSome, hpad, units?_sub hlo hp, units?_sub hv hp]
  have hright : (r.hi + r.pad).isFinite = (window v).hi.isFinite := by
    rw [window, isFinite_eq_isSome, isFinite_eq_isSome, hpad, units?_add hhi hp, units?_add hv hp]
  constructor
  · intro h
    obtain ⟨hlow, hhigh, -⟩ := isUsable_iff.1 h
    exact ⟨hleft.symm.trans hlow, hright.symm.trans hhigh⟩
  · rintro ⟨hl, hr⟩
    rw [← hpad] at hp
    exact isUsable_around hlo hhi hp hle hge (hleft.trans hl) (hright.trans hr)

/-- Around bounds that are one number there is no range but that of the window. -/
theorem padded_of_large {lo : Int} (hlo : r.lo.units? = some lo) (hhi : r.hi.units? = some lo)
    {v : Binary64} (hv : v.units? = some lo)
    (hlarge : ¬ ((window v).lo.isFinite = true ∧ (window v).hi.isFinite = true)) :
    padded (some r) = unit := by
  have hr : ¬ r.isUsable = true := by
    rw [isUsable_iff_of_units? hlo hhi]
    omega
  rw [padded, if_neg (hlarge ∘ (isUsable_widen_iff hlo hhi hv).1), if_neg hr]

/-- The range of unfit values is that of no values. -/
theorem padded_of_unfit (h : Unfit values) : padded (finiteBounds values) = unit := by
  rcases finiteBounds_cases values with ⟨hnone, hbounds⟩ | ⟨r, hr, hbounds⟩
  · rw [hbounds, padded_none]
  · obtain ⟨lo, hi, hlo, hhi, -⟩ := hbounds.exists_units
    rw [hr]
    cases h with
    | none hnone =>
        have hfinite := hbounds.lo_isFinite
        rw [hnone _ hbounds.lo_mem] at hfinite
        cases hfinite
    | wide hother hspan =>
        obtain ⟨hlo', hhi'⟩ := hbounds.units_eq hother hlo hhi
        apply padded_of_wide hlo hhi
        rwa [isFinite_eq_isSome, units?_sub hhi hlo, ← units?_sub hhi' hlo', ← isFinite_eq_isSome]
    | single hmem hfinite hsame hlarge =>
        obtain ⟨n, hv⟩ := isFinite_iff.1 hfinite
        have hlosame := hsame _ hbounds.lo_mem hbounds.lo_isFinite
        have hhisame := hsame _ hbounds.hi_mem hbounds.hi_isFinite
        rw [equals_of_units? hlo hv, decide_eq_true_iff] at hlosame
        rw [equals_of_units? hhi hv, decide_eq_true_iff] at hhisame
        subst hlosame hhisame
        exact padded_of_large hlo hhi hv hlarge

/-- The range of all other values contains every finite one. -/
theorem contains_padded (h : ¬ Unfit values) {v : Binary64} (hv : v ∈ values)
    (hfinite : v.isFinite = true) : (padded (finiteBounds values)).Contains v := by
  rcases finiteBounds_cases values with ⟨hnone, -⟩ | ⟨r, hr, hbounds⟩
  · exact absurd (.none hnone) h
  · obtain ⟨lo, hi, hlo, hhi, hle⟩ := hbounds.exists_units
    obtain ⟨n, hn⟩ := isFinite_iff.1 hfinite
    have hspan : (r.hi - r.lo).isFinite = true := by
      by_contra hspan
      exact h (.wide hbounds (Bool.eq_false_iff.2 hspan))
    rw [hr]
    apply contains_padded_of_isUsable hlo hhi hle _ hn
      ((contains_iff hlo hhi hn).1 (hbounds.contains v hv hfinite))
    rcases Int.lt_or_eq_of_le hle with hlt | rfl
    · exact .inr ((isUsable_iff_of_units? hlo hhi).2 ⟨hspan, hlt⟩)
    · left
      rw [isUsable_widen_iff hlo hhi hlo]
      by_contra hlarge
      refine h (.single hbounds.lo_mem hbounds.lo_isFinite ?_ hlarge)
      intro w hw hwfinite
      obtain ⟨k, hk⟩ := isFinite_iff.1 hwfinite
      have hin := (contains_iff hlo hhi hk).1 (hbounds.contains w hw hwfinite)
      rw [equals_of_units? hk hlo, decide_eq_true_iff]
      omega

theorem finiteBounds_filter (values : List Binary64) :
    finiteBounds (values.filter isFinite) = finiteBounds values := by
  rw [finiteBounds, List.filter_filter]
  simp only [Bool.and_self]
  rfl

end Range

end BenchChart
