import BenchChart.Proofs.Range.Bounds

/-!
# The range around two bounds

Bounds that stand apart lose nothing: rounding keeps order, so a margin may vanish but never turns
inwards, and where margins would be too large the bounds themselves are the ends. A single number
has room on both sides, since its window reaches at least to the next numbers.
-/

namespace BenchChart

namespace Range

open Binary64 hiding add sub mul div neg abs min max floor?

variable {r : Range} {lo hi : Int}

/-- An end or the span is too large. -/
def Overflows (r : Range) : Prop :=
  ¬(r.lo.isFinite = true ∧ r.hi.isFinite = true ∧ (r.hi - r.lo).isFinite = true)

instance (r : Range) : Decidable r.Overflows := inferInstanceAs (Decidable ¬_)

section Units

variable (hlo : r.lo.units? = some lo) (hhi : r.hi.units? = some hi)
include hlo hhi

/-- Between bounds that stand apart, margins can do no harm but overflow. -/
theorem isUsable_widen_iff_of_lt (hlt : lo < hi) :
    r.widen.isUsable = true ↔ ¬r.widen.Overflows := by
  rw [Overflows, not_not, isUsable_iff]
  constructor
  · rintro ⟨hleft, hright, -, hspan⟩
    exact ⟨hleft, hright, hspan⟩
  · rintro ⟨hleft, hright, hspan⟩
    obtain ⟨a, b, ha, hb, hends⟩ :=
      exists_units_widen hlo hhi (Int.le_of_lt hlt) hleft hright
    refine ⟨hleft, hright, ?_, hspan⟩
    rw [less_of_units? ha hb, decide_eq_true_iff]
    omega

theorem padded_of_spread (hlt : lo < hi) (hspan : (r.hi - r.lo).isFinite = true) :
    (padded (some r)).lo.atMost r.lo = true ∧ r.hi.atMost (padded (some r)).hi = true ∧
      (r.widen.Overflows → padded (some r) = r) ∧
      (¬r.widen.Overflows → padded (some r) = r.widen) := by
  have husable : r.isUsable = true := (isUsable_iff_of_units? hlo hhi).2 ⟨hspan, hlt⟩
  have hcontains {v : Binary64} {n : Int} (hv : v.units? = some n) (hn : lo ≤ n ∧ n ≤ hi) :=
    contains_padded_of_isUsable hlo hhi (Int.le_of_lt hlt) (.inr husable) hv hn
  refine ⟨(hcontains hlo (by omega)).1, (hcontains hhi (by omega)).2, ?_, ?_⟩
  · intro hoverflow
    have hwiden : ¬r.widen.isUsable = true :=
      fun h => (isUsable_widen_iff_of_lt hlo hhi hlt).1 h hoverflow
    rw [padded, if_neg hwiden, if_pos husable]
  · intro hfits
    rw [padded, if_pos ((isUsable_widen_iff_of_lt hlo hhi hlt).2 hfits)]

end Units

section Single

variable (hlo : r.lo.units? = some lo) (hhi : r.hi.units? = some lo)
include hlo hhi

theorem widen_of_single : r.widen = ⟨(window r.lo).lo, (window r.hi).hi⟩ := by
  rw [widen, pad_of_eq hlo hhi rfl, window, window, abs_eq_of_units? hlo hhi]

/-- Half the window of a number is at least the distance to the next one. -/
theorem padded_of_single
    (hfits : (window r.lo).lo.isFinite = true ∧ (window r.lo).hi.isFinite = true) :
    padded (some r) = ⟨(window r.lo).lo, (window r.hi).hi⟩ ∧
      less (padded (some r)).lo r.lo = true ∧ less r.hi (padded (some r)).hi = true := by
  have husable := (isUsable_widen_iff hlo hhi hlo).2 hfits
  rw [padded, if_pos husable]
  refine ⟨widen_of_single hlo hhi, ?_⟩
  obtain ⟨p, hp, -, hge⟩ := units?_windowPad hlo
  rw [← pad_of_eq hlo hhi rfl] at hp
  obtain ⟨a, b, ha, hb, -⟩ := exists_units_of_isUsable husable
  obtain ⟨-, rfl⟩ := inRange?_eq_some_iff.1 ((units?_sub hlo hp).symm.trans ha)
  obtain ⟨-, rfl⟩ := inRange?_eq_some_iff.1 ((units?_add hhi hp).symm.trans hb)
  have hm := representable_of_units? hlo
  rw [less_of_units? ha hlo, less_of_units? hhi hb, decide_eq_true_iff, decide_eq_true_iff]
  exact ⟨rounded_sub_lt hm hge, lt_rounded_add hm hge⟩

end Single

/-- The range around two finite bounds. Bounds apart, with a finite span, stay inside it, and it has
margins unless these overflow. Bounds that are one number, with a finite window, lie strictly inside
that window. All other bounds are as good as none. -/
theorem padded_cases {lo hi : Binary64} (hlo : lo.isFinite = true) (hhi : hi.isFinite = true)
    (hle : lo.atMost hi = true) :
    let bounds : Range := ⟨lo, hi⟩
    let range := padded (some bounds)
    let spread := less lo hi = true ∧ (hi - lo).isFinite = true
    let single := lo.equals hi = true ∧
      (window lo).lo.isFinite = true ∧ (window lo).hi.isFinite = true
    range.isUsable = true ∧ ¬(spread ∧ single) ∧
      (spread → range.lo.atMost lo = true ∧ hi.atMost range.hi = true ∧
        (bounds.widen.Overflows → range = bounds) ∧
        (¬bounds.widen.Overflows → range = bounds.widen)) ∧
      (single → range = ⟨(window lo).lo, (window hi).hi⟩ ∧
        less range.lo lo = true ∧ less hi range.hi = true) ∧
      (¬spread → ¬single → range = unit) := by
  obtain ⟨m, hm⟩ := isFinite_iff.1 hlo
  obtain ⟨n, hn⟩ := isFinite_iff.1 hhi
  rw [atMost_of_units? hm hn, decide_eq_true_iff] at hle
  intro bounds range spread single
  have hspread : spread ↔ m < n ∧ (hi - lo).isFinite = true := by
    simp only [spread, less_of_units? hm hn, decide_eq_true_iff]
  have hsingle : single ↔
      m = n ∧ (window lo).lo.isFinite = true ∧ (window lo).hi.isFinite = true := by
    simp only [single, equals_of_units? hm hn, decide_eq_true_iff]
  rw [hspread, hsingle]
  refine ⟨isUsable_padded _, by omega, ?_, ?_, ?_⟩
  · rintro ⟨hlt, hspan⟩
    exact padded_of_spread (r := bounds) hm hn hlt hspan
  · rintro ⟨rfl, hfits⟩
    exact padded_of_single (r := bounds) hm hn hfits
  · intro hnear hlarge
    rcases Int.lt_or_eq_of_le hle with hlt | rfl
    · exact padded_of_wide (r := bounds) hm hn (Bool.eq_false_iff.2 fun h => hnear ⟨hlt, h⟩)
    · exact padded_of_large (r := bounds) hm hn hm fun h => hlarge ⟨rfl, h⟩

/-- At the ends of what binary64 can hold: a margin that underflows, one that overflows, a number
with a window, a span that overflows and a number without a window. -/
theorem padded_cases_of_extreme :
    let tiny := ofUnits false 1 1
    let large := Binary64.ofNat (twoPow 1023)
    let largest := Binary64.ofNat (twoPow 1024 - twoPow 971)
    pad ⟨zero true, tiny⟩ = zero false ∧ padded (some ⟨zero true, tiny⟩) = ⟨zero true, tiny⟩ ∧
      padded (some ⟨zero true, largest⟩) = ⟨zero true, largest⟩ ∧
      less (padded (some ⟨large, large⟩)).lo large = true ∧
      less large (padded (some ⟨large, large⟩)).hi = true ∧
      padded (some ⟨large.neg, large⟩) = unit ∧ padded (some ⟨largest, largest⟩) = unit := by
  intro tiny large largest
  have hzero : (zero true).isFinite = true := rfl
  have htiny : tiny.isFinite = true := by decide +kernel
  have hlarge : large.isFinite = true := by decide +kernel
  have hneg : large.neg.isFinite = true := by decide +kernel
  have hlargest : largest.isFinite = true := by decide +kernel
  have hthin := padded_cases hzero htiny (by decide +kernel)
  have hhalf := padded_cases hzero hlargest (by decide +kernel)
  have hone := padded_cases hlarge hlarge (by decide +kernel)
  have hwide := padded_cases hneg hlarge (by decide +kernel)
  have hnone := padded_cases hlargest hlargest (by decide +kernel)
  refine ⟨by decide +kernel, ?_, ?_, ?_, ?_, ?_, ?_⟩
  · rw [(hthin.2.2.1 (by decide +kernel)).2.2.2 (by decide +kernel)]
    decide +kernel
  · exact (hhalf.2.2.1 (by decide +kernel)).2.2.1 (by decide +kernel)
  · exact (hone.2.2.2.1 (by decide +kernel)).2.1
  · exact (hone.2.2.2.1 (by decide +kernel)).2.2
  · exact hwide.2.2.2.2 (by decide +kernel) (by decide +kernel)
  · exact hnone.2.2.2.2 (by decide +kernel) (by decide +kernel)

end Range

end BenchChart
