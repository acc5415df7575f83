import BenchChart.Proofs.Binary64.Arithmetic
import BenchChart.Range

/-!
# Usable ranges

A range is usable if its ends and its span are whole numbers of units and it is not empty. The
range of an axis is usable whatever the values are. It spans the bounds of the values unless their
difference is too large, or they are one number whose window is; then it is `0..1`.
-/

namespace BenchChart

namespace Range

open Binary64 hiding add sub mul div neg abs min max floor?

variable {r : Range} {lo hi : Int}

/-- Whether a number lies in a range, its ends included. -/
def Contains (r : Range) (v : Binary64) : Prop :=
  r.lo.atMost v = true ∧ v.atMost r.hi = true

/-- What is shown around a number that is the only one: a twentieth of it, but at least one, on
each side. -/
def window (v : Binary64) : Range :=
  let pad := (v.abs * margin).max (Binary64.ofNat 1)
  ⟨v - pad, v + pad⟩

theorem isUsable_iff :
    r.isUsable = true ↔ r.lo.isFinite = true ∧ r.hi.isFinite = true ∧
      Binary64.less r.lo r.hi = true ∧ (r.hi - r.lo).isFinite = true := by
  simp only [isUsable, Bool.and_eq_true]
  tauto

theorem contains_iff {v : Binary64} {n : Int} (hlo : r.lo.units? = some lo)
    (hhi : r.hi.units? = some hi) (hv : v.units? = some n) :
    r.Contains v ↔ lo ≤ n ∧ n ≤ hi := by
  rw [Contains, atMost_of_units? hlo hv, atMost_of_units? hv hhi, decide_eq_true_iff,
    decide_eq_true_iff]

theorem isUsable_iff_of_units? (hlo : r.lo.units? = some lo) (hhi : r.hi.units? = some hi) :
    r.isUsable = true ↔ (r.hi - r.lo).isFinite = true ∧ lo < hi := by
  rw [isUsable, less_of_units? hlo hhi, isFinite_of_units? hlo, isFinite_of_units? hhi]
  simp

theorem exists_units_of_isUsable (h : r.isUsable = true) :
    ∃ lo hi, r.lo.units? = some lo ∧ r.hi.units? = some hi ∧ lo < hi := by
  obtain ⟨hleft, hright, -⟩ := isUsable_iff.1 h
  obtain ⟨lo, hlo⟩ := isFinite_iff.1 hleft
  obtain ⟨hi, hhi⟩ := isFinite_iff.1 hright
  exact ⟨lo, hi, hlo, hhi, ((isUsable_iff_of_units? hlo hhi).1 h).2⟩

theorem isUsable_unit : unit.isUsable = true := by decide +kernel

theorem isUsable_padded (bounds : Option Range) : (padded bounds).isUsable = true := by
  cases bounds with
  | none => exact isUsable_unit
  | some r =>
      by_cases hwiden : r.widen.isUsable = true
      · rwa [padded, if_pos hwiden]
      · by_cases hr : r.isUsable = true
        · rwa [padded, if_neg hwiden, if_pos hr]
        · rw [padded, if_neg hwiden, if_neg hr]
          exact isUsable_unit

section Window

variable {v : Binary64} {m : Int}

/-- The margin is between a thirty-second and a sixteenth. -/
theorem units?_margin :
    ∃ k : Nat, margin.units? = some (k : Int) ∧ twoPow 1069 ≤ k ∧ k ≤ twoPow 1070 := by
  have hone : unitsPerOne = twoPow 5 * twoPow 1069 := twoPow_add 5 1069
  have hhalf : twoPow 1070 = 2 * twoPow 1069 := twoPow_succ 1069
  have hfive : twoPow 5 = 32 := by decide
  rw [hfive] at hone
  have hbound : 5 * unitsPerOne ≤ twoPow 1070 * 100 := by omega
  obtain ⟨hunits, hle⟩ := units?_ofRatio_of_le (by decide) (by decide) hbound
  exact ⟨_, hunits, le_roundUnits_of_le (gap_dvd_twoPow 1069) (by decide) (by omega), hle⟩

/-- A twentieth of a number is finite, and reaches beyond the next number if that is further away
than one unit. -/
theorem units?_abs_mul_margin (hv : v.units? = some m) :
    ∃ k : Nat, (v.abs * margin).units? = some (k : Int) ∧ k ≤ twoPow 2094 ∧
      (0 < gapExponent m.natAbs → twoPow (gapExponent m.natAbs) ≤ k) := by
  obtain ⟨k, hk, hge, hle⟩ := units?_margin
  have hpos : 0 < unitsPerOne := unitsPerOne_pos
  have htop : roundUnits (m.natAbs * k) unitsPerOne ≤ twoPow 2094 := by
    apply roundUnits_le_of_le (gap_dvd_twoPow 2094) hpos
    calc m.natAbs * k ≤ twoPow 2098 * twoPow 1070 :=
          Nat.mul_le_mul (Nat.le_of_lt (representable_of_units? hv).lt_limit) hle
      _ = twoPow 2094 * unitsPerOne := by rw [unitsPerOne, ← twoPow_add, ← twoPow_add]
  refine ⟨roundUnits (m.natAbs * k) unitsPerOne, ?_, htop, ?_⟩
  · have hlimit : roundUnits (m.natAbs * k) unitsPerOne < limit :=
      Nat.lt_of_le_of_lt htop (twoPow_lt_twoPow (by decide))
    rw [units?_mul (units?_abs hv) hk, ← Int.natCast_mul, rounded_natCast]
    exact inRange?_of_lt hlimit
  · intro hgap
    apply le_roundUnits_of_le (gap_dvd_twoPow _) hpos
    calc twoPow (gapExponent m.natAbs) * unitsPerOne
        ≤ twoPow (52 + gapExponent m.natAbs) * twoPow 1069 := by
          rw [unitsPerOne, ← twoPow_add, ← twoPow_add]
          exact twoPow_le_twoPow (by omega)
      _ ≤ m.natAbs * k := Nat.mul_le_mul (twoPow_le_of_gapExponent_pos hgap) hge

theorem units?_windowPad (hv : v.units? = some m) :
    ∃ p : Nat, ((v.abs * margin).max (Binary64.ofNat 1)).units? = some (p : Int) ∧
      p ≤ twoPow 2094 ∧ twoPow (gapExponent m.natAbs) ≤ p := by
  obtain ⟨k, hk, hle, hge⟩ := units?_abs_mul_margin hv
  have hone : (Binary64.ofNat 1).units? = some (unitsPerOne : Int) := by
    rw [units?_ofNat (twoPow_pos 53), Nat.one_mul]
  have hmax : ∀ a b : Nat, Max.max (a : Int) b = (Max.max a b : Nat) := by omega
  refine ⟨Max.max k unitsPerOne, ?_, ?_, ?_⟩
  · rw [units?_max hk hone, hmax]
  · exact Nat.max_le.2 ⟨hle, twoPow_le_twoPow (by decide)⟩
  · rcases Nat.eq_zero_or_pos (gapExponent m.natAbs) with hgap | hgap
    · rw [hgap]
      exact Nat.le_trans (twoPow_le_twoPow (Nat.zero_le 1074)) (Nat.le_max_right _ _)
    · exact Nat.le_trans (hge hgap) (Nat.le_max_left _ _)

theorem rounded_add_le_of_le {p : Nat} (hp : p ≤ twoPow 2094) (hm : m ≤ p) :
    rounded (m + p) 1 ≤ twoPow 2095 := by
  have hdouble : twoPow 2095 = 2 * twoPow 2094 := twoPow_succ 2094
  exact rounded_le_twoPow Nat.one_pos (by omega)

/-- The span of a window is finite if its ends are: around zero both ends are small, and elsewhere
the span is not above the larger end. -/
theorem rounded_span_lt_limit {p : Nat} (hp : p ≤ twoPow 2094)
    (hlo : (rounded (m - p) 1).natAbs < limit) (hhi : (rounded (m + p) 1).natAbs < limit) :
    (rounded (rounded (m + p) 1 - rounded (m - p) 1) 1).natAbs < limit := by
  have horder : rounded (m - p) 1 ≤ rounded (m + p) 1 :=
    rounded_le_rounded Nat.one_pos Nat.one_pos (by omega)
  have hspan : 0 ≤ rounded (rounded (m + p) 1 - rounded (m - p) 1) 1 :=
    rounded_nonneg (by omega) 1
  -- On one side of zero the span is bounded by the end that is further away.
  by_cases hleft : 0 ≤ rounded (m - p) 1
  · have hle : rounded (rounded (m + p) 1 - rounded (m - p) 1) 1 ≤ rounded (m + p) 1 :=
      rounded_le_of_le (gap_dvd_rounded _ _) Nat.one_pos (by omega)
    omega
  · by_cases hright : rounded (m + p) 1 ≤ 0
    · have hle : rounded (rounded (m + p) 1 - rounded (m - p) 1) 1 ≤ -rounded (m - p) 1 := by
        apply rounded_le_of_le _ Nat.one_pos (by omega)
        rw [Int.natAbs_neg]
        exact gap_dvd_rounded _ _
      omega
    · -- With an end on each side of zero, the number is smaller than what is added to it.
      have hmlo : m - p < 0 := by
        by_contra hge
        exact hleft (rounded_nonneg (by omega) 1)
      have hmhi : 0 < m + p := by
        by_contra hge
        have hneg : 0 ≤ rounded (-(m + p)) 1 := rounded_nonneg (by omega) 1
        rw [rounded_neg] at hneg
        omega
      have hhigh := rounded_add_le_of_le hp (show m ≤ p by omega)
      have hlow := rounded_add_le_of_le hp (show -m ≤ p by omega)
      have hdouble : twoPow 2096 = 2 * twoPow 2095 := twoPow_succ 2095
      have hle : rounded (rounded (m + p) 1 - rounded (m - p) 1) 1 ≤ twoPow 2096 := by
        rw [rounded_sub]
        exact rounded_le_twoPow Nat.one_pos (by omega)
      have hlimit : twoPow 2096 < limit := twoPow_lt_twoPow (by decide)
      omega

/-- A range around numbers of the same value is usable if its ends are finite. -/
theorem isUsable_around {x y q : Binary64} (hx : x.units? = some m) (hy : y.units? = some m)
    {p : Nat} (hq : q.units? = some (p : Int)) (hle : p ≤ twoPow 2094)
    (hge : twoPow (gapExponent m.natAbs) ≤ p) (hlo : (x - q).isFinite = true)
    (hhi : (y + q).isFinite = true) : isUsable ⟨x - q, y + q⟩ = true := by
  obtain ⟨a, ha⟩ := isFinite_iff.1 hlo
  obtain ⟨b, hb⟩ := isFinite_iff.1 hhi
  obtain ⟨hloLimit, rfl⟩ := inRange?_eq_some_iff.1 ((units?_sub hx hq).symm.trans ha)
  obtain ⟨hhiLimit, rfl⟩ := inRange?_eq_some_iff.1 ((units?_add hy hq).symm.trans hb)
  have hspan : (y + q - (x - q)).isFinite = true := by
    apply isFinite_of_units?
    rw [units?_sub hb ha]
    exact inRange?_of_lt (rounded_span_lt_limit hle hloLimit hhiLimit)
  rw [isUsable_iff_of_units? ha hb]
  have hm := representable_of_units? hx
  exact ⟨hspan, Int.lt_trans (rounded_sub_lt hm hge) (lt_rounded_add hm hge)⟩

end Window

section Padded

variable (hlo : r.lo.units? = some lo) (hhi : r.hi.units? = some hi)
include hlo hhi

theorem pad_of_eq (h : lo = hi) : r.pad = (r.lo.abs * margin).max (Binary64.ofNat 1) := by
  rw [pad, equals_of_units? hlo hhi, if_pos (decide_eq_true h)]

theorem pad_of_ne (h : lo ≠ hi) : r.pad = (r.hi - r.lo) * margin := by
  rw [pad, equals_of_units? hlo hhi, if_neg (by simpa using h)]

theorem nonneg_of_units?_pad (hle : lo ≤ hi) {p : Int} (hp : r.pad.units? = some p) : 0 ≤ p := by
  by_cases heq : lo = hi
  · obtain ⟨k, hk, -, -⟩ := units?_windowPad hlo
    rw [pad_of_eq hlo hhi heq, hk, Option.some.injEq] at hp
    omega
  · rw [pad_of_ne hlo hhi heq] at hp
    obtain ⟨d, hd⟩ := isFinite_iff.1 (isFinite_of_isFinite_mul (isFinite_of_units? hp)).1
    obtain ⟨k, hk, -, -⟩ := units?_margin
    obtain ⟨-, rfl⟩ := inRange?_eq_some_iff.1 ((units?_mul hd hk).symm.trans hp)
    obtain ⟨-, rfl⟩ := inRange?_eq_some_iff.1 ((units?_sub hhi hlo).symm.trans hd)
    have hspan : 0 ≤ rounded (hi - lo) 1 := rounded_nonneg (by omega) 1
    exact rounded_nonneg (Int.mul_nonneg hspan (Int.natCast_nonneg k)) _

/-- The margins do not move the ends inwards. -/
theorem exists_units_widen (hle : lo ≤ hi) (hleft : r.widen.lo.isFinite = true)
    (hright : r.widen.hi.isFinite = true) :
    ∃ a b, r.widen.lo.units? = some a ∧ r.widen.hi.units? = some b ∧ a ≤ lo ∧ hi ≤ b := by
  obtain ⟨a, ha⟩ := isFinite_iff.1 hleft
  obtain ⟨b, hb⟩ := isFinite_iff.1 hright
  refine ⟨a, b, ha, hb, ?_⟩
  obtain ⟨p, hp⟩ := isFinite_iff.1 (isFinite_of_isFinite_sub hleft).2
  have hnonneg := nonneg_of_units?_pad hlo hhi hle hp
  obtain ⟨-, rfl⟩ := inRange?_eq_some_iff.1 ((units?_sub hlo hp).symm.trans ha)
  obtain ⟨-, rfl⟩ := inRange?_eq_some_iff.1 ((units?_add hhi hp).symm.trans hb)
  exact ⟨rounded_le_of_le (representable_of_units? hlo).gap_dvd Nat.one_pos (by omega),
    le_rounded_of_le (representable_of_units? hhi).gap_dvd Nat.one_pos (by omega)⟩

/-- The margins only add to what a range contains. -/
theorem contains_widen (hle : lo ≤ hi) (husable : r.widen.isUsable = true) {v : Binary64}
    {n : Int} (hv : v.units? = some n) (h : lo ≤ n ∧ n ≤ hi) : r.widen.Contains v := by
  obtain ⟨hleft, hright, -⟩ := isUsable_iff.1 husable
  obtain ⟨a, b, ha, hb, hends⟩ := exists_units_widen hlo hhi hle hleft hright
  rw [contains_iff ha hb hv]
  omega

theorem contains_padded_of_isUsable (hle : lo ≤ hi)
    (h : r.widen.isUsable = true ∨ r.isUsable = true) {v : Binary64} {n : Int}
    (hv : v.units? = some n) (hn : lo ≤ n ∧ n ≤ hi) : (padded (some r)).Contains v := by
  by_cases hwiden : r.widen.isUsable = true
  · rw [padded, if_pos hwiden]
    exact contains_widen hlo hhi hle hwiden hv hn
  · rw [padded, if_neg hwiden, if_pos (h.resolve_left hwiden)]
    exact (contains_iff hlo hhi hv).2 hn

/-- Without a finite span there is no room for margins either. -/
theorem padded_of_wide (h : (r.hi - r.lo).isFinite = false) : padded (some r) = unit := by
  have hne : lo ≠ hi := by
    rintro rfl
    have hfinite : (r.hi - r.lo).isFinite = true := by
      apply isFinite_of_units?
      rw [units?_sub hhi hlo, Int.sub_self, rounded_zero]
      exact inRange?_of_lt limit_pos
    rw [hfinite] at h
    cases h
  have hwiden : r.widen.isUsable ≠ true := by
    intro husable
    obtain ⟨a, -, ha, -⟩ := exists_units_of_isUsable husable
    have hpad := (isFinite_of_isFinite_sub (isFinite_of_units? ha)).2
    rw [pad_of_ne hlo hhi hne] at hpad
    rw [(isFinite_of_isFinite_mul hpad).1] at h
    cases h
  have hr : r.isUsable ≠ true := by
    rw [ne_eq, isUsable_iff_of_units? hlo hhi, h]
    simp
  rw [padded, if_neg hwiden, if_neg hr]

end Padded

end Range

end BenchChart
