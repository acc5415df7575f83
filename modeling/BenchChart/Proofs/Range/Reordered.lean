import BenchChart.Proofs.Range.Bounds
import Mathlib.Data.Option.Basic

/-!
# Bounds of reordered values

The bounds of values are determined by which finite values there are, up to the sign of a zero: of
the two zeros the one that comes first is kept. So the order of the values makes no other
difference, and the bounds of two parts together are the bounds of the whole. `Bounds` says of
perhaps missing bounds that they are those of the values; two such are always `SameBounds`.
-/

namespace BenchChart

namespace Range

open Binary64 hiding add sub mul div neg abs min max floor?

variable {values others : List Binary64} {r s : Range} {a b : Option Range}

/-- The ends are the same numbers. They may differ in the sign of a zero. -/
structure SameEnds (r s : Range) : Prop where
  lo : r.lo.SameNumber s.lo
  hi : r.hi.SameNumber s.hi

/-- There are no bounds, or the ends are the same numbers. -/
def SameBounds (a b : Option Range) : Prop := Option.Rel SameEnds a b

/-- The least range that contains two ranges. -/
def join (r s : Range) : Range := ⟨r.lo.min s.lo, r.hi.max s.hi⟩

/-- The bounds of values, which are missing if no value is finite. -/
inductive Bounds (values : List Binary64) : Option Range → Prop where
  | missing (none : ∀ v ∈ values, v.isFinite = false) : Bounds values .none
  | found {r : Range} (bounds : IsBounds values r) : Bounds values (some r)

/-- The finite values are the same, in whatever order and number. -/
def SameValues (values others : List Binary64) : Prop :=
  ∀ v, v.isFinite = true → (v ∈ others ↔ v ∈ values)

theorem sameNumber_of_units? {x y : Binary64} {n : Int} (hx : x.units? = some n)
    (hy : y.units? = some n) : x.SameNumber y := by
  rw [← equals_iff, equals_of_units? hx hy, decide_eq_true_iff]

theorem not_isBounds_of_none (h : ∀ v ∈ values, v.isFinite = false) : ¬IsBounds values r := by
  intro hr
  have hfinite := hr.lo_isFinite
  rw [h _ hr.lo_mem] at hfinite
  cases hfinite

theorem IsBounds.sameEnds (hr : IsBounds values r) (hs : IsBounds values s) : SameEnds r s := by
  obtain ⟨lo, hi, hlo, hhi, -⟩ := hr.exists_units
  obtain ⟨hlo', hhi'⟩ := hr.units_eq hs hlo hhi
  exact ⟨sameNumber_of_units? hlo hlo', sameNumber_of_units? hhi hhi'⟩

theorem IsBounds.congr (h : SameValues values others) (hr : IsBounds values r) :
    IsBounds others r where
  lo_mem := (h _ hr.lo_isFinite).2 hr.lo_mem
  hi_mem := (h _ hr.hi_isFinite).2 hr.hi_mem
  lo_isFinite := hr.lo_isFinite
  hi_isFinite := hr.hi_isFinite
  contains v hv hfinite := hr.contains v ((h v hfinite).1 hv) hfinite

theorem IsBounds.join (hr : IsBounds values r) (hs : IsBounds others s) :
    IsBounds (values ++ others) (r.join s) := by
  obtain ⟨lo, hi, hlo, hhi, -⟩ := hr.exists_units
  obtain ⟨lo', hi', hlo', hhi', -⟩ := hs.exists_units
  have hmin := units?_min hlo hlo'
  have hmax := units?_max hhi hhi'
  refine ⟨?_, ?_, isFinite_of_units? hmin, isFinite_of_units? hmax, ?_⟩
  · rw [Range.join, Binary64.min]
    split
    · exact List.mem_append_right _ hs.lo_mem
    · exact List.mem_append_left _ hr.lo_mem
  · rw [Range.join, Binary64.max]
    split
    · exact List.mem_append_right _ hs.hi_mem
    · exact List.mem_append_left _ hr.hi_mem
  · intro v hv hfinite
    obtain ⟨n, hn⟩ := isFinite_iff.1 hfinite
    rw [contains_iff hmin hmax hn]
    rcases List.mem_append.1 hv with hv | hv
    · have hcontains := (contains_iff hlo hhi hn).1 (hr.contains v hv hfinite)
      omega
    · have hcontains := (contains_iff hlo' hhi' hn).1 (hs.contains v hv hfinite)
      omega

namespace Bounds

theorem of_finiteBounds (values : List Binary64) : Bounds values (finiteBounds values) := by
  rcases finiteBounds_cases values with ⟨hnone, hbounds⟩ | ⟨r, hr, hbounds⟩
  · rw [hbounds]
    exact .missing hnone
  · rw [hr]
    exact .found hbounds

theorem sameBounds (ha : Bounds values a) (hb : Bounds values b) : SameBounds a b := by
  cases ha with
  | missing hnone =>
      cases hb with
      | missing => exact .none
      | found hs => exact absurd hs (not_isBounds_of_none hnone)
  | found hr =>
      cases hb with
      | missing hnone => exact absurd hr (not_isBounds_of_none hnone)
      | found hs => exact .some (hr.sameEnds hs)

theorem congr (h : SameValues values others) (ha : Bounds values a) : Bounds others a := by
  cases ha with
  | missing hnone =>
      refine .missing fun v hv => ?_
      rw [Bool.eq_false_iff]
      intro hfinite
      rw [hnone v ((h v hfinite).1 hv)] at hfinite
      cases hfinite
  | found hr => exact .found (hr.congr h)

theorem merge (ha : Bounds values a) (hb : Bounds others b) :
    Bounds (values ++ others) (a.merge Range.join b) := by
  have hskip : ∀ {part : List Binary64}, (∀ v ∈ part, v.isFinite = false) →
      ∀ v : Binary64, v.isFinite = true → v ∉ part := by
    intro part hnone v hfinite hv
    rw [hnone v hv] at hfinite
    cases hfinite
  cases ha with
  | missing hnone =>
      rw [Option.merge_none_left]
      refine hb.congr fun v hfinite => ?_
      rw [List.mem_append, or_iff_right (hskip hnone v hfinite)]
  | found hr =>
      cases hb with
      | missing hnone =>
          rw [Option.merge_none_right]
          refine (Bounds.found hr).congr fun v hfinite => ?_
          rw [List.mem_append, or_iff_left (hskip hnone v hfinite)]
      | found hs => exact .found (hr.join hs)

end Bounds

/-- Which finite values there are determines the bounds, up to the sign of a zero. -/
theorem sameBounds_of_sameValues (h : SameValues values others) :
    SameBounds (finiteBounds others) (finiteBounds values) :=
  (Bounds.of_finiteBounds others).sameBounds ((Bounds.of_finiteBounds values).congr h)

theorem sameValues_of_perm (h : others.Perm values) : SameValues values others :=
  fun _ _ => h.mem_iff

/-- There are bounds if and only if there is a finite value. They are values, and all other finite
values lie between them. What is not finite can come and go; and values in any order, or in two
parts whose bounds are joined, have the same bounds up to the sign of a zero. -/
theorem finiteBounds_determined (values : List Binary64) :
    (finiteBounds values = none ↔ ∀ v ∈ values, v.isFinite = false) ∧
      (∀ r, finiteBounds values = some r →
        (∃ v ∈ values, v.isFinite = true ∧ r.lo.equals v = true) ∧
          (∃ v ∈ values, v.isFinite = true ∧ r.hi.equals v = true) ∧
          ∀ v ∈ values, v.isFinite = true → r.lo.atMost v = true ∧ v.atMost r.hi = true) ∧
      (∀ others, others.filter isFinite = values.filter isFinite →
        finiteBounds others = finiteBounds values) ∧
      (∀ others, others.Perm values →
        SameBounds (finiteBounds others) (finiteBounds values)) ∧
      ∀ front back, (front ++ back).Perm values →
        SameBounds ((finiteBounds front).merge join (finiteBounds back)) (finiteBounds values) := by
  refine ⟨⟨?_, ?_⟩, ?_, ?_, ?_, ?_⟩
  · intro hnone
    rcases finiteBounds_cases values with ⟨hall, -⟩ | ⟨r, hr, -⟩
    · exact hall
    · rw [hnone] at hr
      cases hr
  · intro hall
    rcases finiteBounds_cases values with ⟨-, hnone⟩ | ⟨r, -, hbounds⟩
    · exact hnone
    · exact absurd hbounds (not_isBounds_of_none hall)
  · intro r hr
    rcases finiteBounds_cases values with ⟨-, hnone⟩ | ⟨s, hs, hbounds⟩
    · rw [hr] at hnone
      cases hnone
    · obtain rfl := Option.some.inj (hr.symm.trans hs)
      obtain ⟨lo, hi, hlo, hhi, -⟩ := hbounds.exists_units
      refine ⟨⟨_, hbounds.lo_mem, hbounds.lo_isFinite, ?_⟩,
        ⟨_, hbounds.hi_mem, hbounds.hi_isFinite, ?_⟩, hbounds.contains⟩
      · rw [equals_of_units? hlo hlo, decide_eq_true_iff]
      · rw [equals_of_units? hhi hhi, decide_eq_true_iff]
  · intro others hfilter
    rw [← finiteBounds_filter, hfilter, finiteBounds_filter]
  · intro others hperm
    exact sameBounds_of_sameValues (sameValues_of_perm hperm)
  · intro front back hperm
    have hjoined := (Bounds.of_finiteBounds front).merge (Bounds.of_finiteBounds back)
    have hvalues := (Bounds.of_finiteBounds values).congr (sameValues_of_perm hperm)
    exact hjoined.sameBounds hvalues

/-- Of two zeros the first one is the bound. -/
theorem finiteBounds_determined_of_zeros :
    let one := Binary64.ofNat 1
    let values := [zero false, nan, one, infinite true, zero true]
    let others := [zero true, one, infinite false, zero false]
    finiteBounds values = some ⟨zero false, one⟩ ∧ finiteBounds others = some ⟨zero true, one⟩ ∧
      SameBounds (finiteBounds others) (finiteBounds [zero false, one, zero true]) ∧
      finiteBounds [zero false, one, zero true] = finiteBounds values ∧
      SameBounds ((finiteBounds [zero true]).merge join (finiteBounds [zero false, one]))
        (finiteBounds [zero false, one, zero true]) := by
  intro one values others
  obtain ⟨-, -, -, hperm, hparts⟩ := finiteBounds_determined [zero false, one, zero true]
  obtain ⟨-, -, hskip, -⟩ := finiteBounds_determined values
  obtain ⟨-, -, hskipOther, -⟩ := finiteBounds_determined others
  refine ⟨by decide +kernel, by decide +kernel, ?_, hskip _ (by decide +kernel),
    hparts _ _ (by decide +kernel)⟩
  rw [← hskipOther [zero true, one, zero false] (by decide +kernel)]
  exact hperm _ (by decide +kernel)

end Range

end BenchChart
