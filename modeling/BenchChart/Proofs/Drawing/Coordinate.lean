import BenchChart.Drawing
import BenchChart.Proofs.Range

/-!
# Pixels of numbers

A number that is kept in a usable range is a fraction between zero and one of it, rounding
included. Its distance from the first pixel is then at most the whole span, and the thousandth that
is added before the fraction is cut off does not reach the next pixel, so the number is drawn
between the first pixel and the last. NaN is drawn at the first one.
-/

namespace BenchChart

namespace Drawing

open Binary64 hiding add sub mul div neg abs min max

variable {range : Range} {v : Binary64} {lo hi : Int}

theorem clamp?_eq_some {a b : Binary64} (h : a.atMost b = true) (x : Binary64) :
    clamp? a b x = some (clamp a b x) := if_pos h

theorem confine_eq_clamp (h : range.lo.atMost range.hi = true) (v : Binary64) :
    confine range v = clamp range.lo range.hi v := by
  rw [confine, clamp?_eq_some h, Option.getD_some]

theorem confine_nan (h : range.lo.atMost range.hi = true) : confine range .nan = .nan := by
  rw [confine_eq_clamp h, clamp, less_nan_left, less_nan_right]
  rfl

/-- All but NaN is moved into the range. -/
theorem units?_confine (hlo : range.lo.units? = some lo) (hhi : range.hi.units? = some hi)
    (hle : lo ≤ hi) (hv : v ≠ .nan) :
    ∃ n, (confine range v).units? = some n ∧ lo ≤ n ∧ n ≤ hi := by
  rw [confine_eq_clamp (by rw [atMost_of_units? hlo hhi, decide_eq_true hle])]
  cases v with
  | nan => exact absurd rfl hv
  | infinite s =>
      obtain ⟨t, k, hk, hrange, -⟩ := units?_eq_some_iff.1 hlo
      obtain ⟨u, l, hl, hrange', -⟩ := units?_eq_some_iff.1 hhi
      cases s with
      | true =>
          refine ⟨lo, ?_, Int.le_refl lo, hle⟩
          rw [clamp, if_pos (by rw [hrange]; rfl), hlo]
      | false =>
          refine ⟨hi, ?_, hle, Int.le_refl hi⟩
          rw [clamp, if_neg (by rw [hrange]; exact Bool.false_ne_true),
            if_pos (by rw [hrange']; rfl), hhi]
  | finite s k hk =>
      have hunits : (finite s k hk).units? = some (signed s k) := rfl
      rw [clamp, less_of_units? hunits hlo, less_of_units? hhi hunits]
      by_cases hleft : signed s k < lo
      · exact ⟨lo, by rw [if_pos (decide_eq_true hleft), hlo], Int.le_refl lo, hle⟩
      · rw [if_neg (by simpa using hleft)]
        by_cases hright : hi < signed s k
        · exact ⟨hi, by rw [if_pos (decide_eq_true hright), hhi], hle, Int.le_refl hi⟩
        · exact ⟨signed s k, by rw [if_neg (by simpa using hright), hunits], by omega, by omega⟩

/-- How far a number of the range lies into it is between zero and one. -/
theorem units?_fraction (husable : range.isUsable = true) (hlo : range.lo.units? = some lo)
    (hhi : range.hi.units? = some hi) {n : Int} (hv : v.units? = some n) (hn : lo ≤ n ∧ n ≤ hi) :
    ∃ f, (fraction range v).units? = some f ∧ 0 ≤ f ∧ f ≤ unitsPerOne := by
  obtain ⟨hfinite, hlt⟩ := (Range.isUsable_iff_of_units? hlo hhi).1 husable
  obtain ⟨d, hd⟩ := isFinite_iff.1 hfinite
  obtain ⟨hlimit, rfl⟩ := inRange?_eq_some_iff.1 ((units?_sub hhi hlo).symm.trans hd)
  have hpos : 1 ≤ rounded (hi - lo) 1 :=
    le_rounded_of_le (by decide) Nat.one_pos (by omega)
  have hpart : 0 ≤ rounded (n - lo) 1 := rounded_nonneg (by omega) 1
  have hpart_le : rounded (n - lo) 1 ≤ rounded (hi - lo) 1 :=
    rounded_le_rounded Nat.one_pos Nat.one_pos (by omega)
  have hnum : (v - range.lo).units? = some (rounded (n - lo) 1) := by
    rw [units?_sub hv hlo]
    exact inRange?_of_lt (by omega)
  have hden : 0 < (rounded (hi - lo) 1).natAbs := by omega
  have hnonneg : 0 ≤ rounded (rounded (n - lo) 1 * unitsPerOne) (rounded (hi - lo) 1).natAbs :=
    rounded_nonneg (Int.mul_nonneg hpart (Int.natCast_nonneg _)) _
  have hle : rounded (rounded (n - lo) 1 * unitsPerOne) (rounded (hi - lo) 1).natAbs ≤
      unitsPerOne := by
    apply rounded_le_twoPow hden
    rw [Int.natAbs_of_nonneg (by omega), Int.mul_comm]
    exact Int.mul_le_mul_of_nonneg_left hpart_le (Int.natCast_nonneg _)
  refine ⟨_, ?_, hnonneg, hle⟩
  rw [fraction, units?_div hnum hd (by omega)]
  have hone : unitsPerOne < limit := twoPow_lt_twoPow (by decide)
  exact inRange?_of_lt (by omega)

theorem units?_tolerance :
    ∃ t : Nat, tolerance.units? = some (t : Int) ∧ t ≤ twoPow 1073 := by
  have hone : unitsPerOne = 2 * twoPow 1073 := twoPow_succ 1073
  have hbound : 1 * unitsPerOne ≤ twoPow 1073 * 1000 := by omega
  exact ⟨_, units?_ofRatio_of_le (by decide) (by decide) hbound⟩

/-- Less than half a pixel more does not lead to the next pixel. -/
theorem fdiv_rounded_add {k t : Nat} (hk : k < twoPow 52) (ht : t ≤ twoPow 1073) {l : Int}
    (hl : 0 ≤ l) (hle : l ≤ k * unitsPerOne) :
    (rounded (l + t) 1).natAbs < limit ∧ 0 ≤ (rounded (l + t) 1).fdiv unitsPerOne ∧
      (rounded (l + t) 1).fdiv unitsPerOne ≤ k := by
  have hhalf : 2 * twoPow 1073 = unitsPerOne := (twoPow_succ 1073).symm
  have hbits : twoPow 53 = 2 * twoPow 52 := twoPow_succ 52
  have hodd : 2 * k + 1 ≤ twoPow 53 := by omega
  have hsplit : ((2 * k + 1) * twoPow 1073 : Nat) = k * unitsPerOne + twoPow 1073 := by
    rw [← hhalf]
    ring
  have hnonneg : 0 ≤ rounded (l + t) 1 := rounded_nonneg (by omega) 1
  have hbound : rounded (l + t) 1 ≤ ((2 * k + 1) * twoPow 1073 : Nat) := by
    apply rounded_le_of_le _ Nat.one_pos
    · rw [hsplit]
      push_cast
      omega
    · rw [Int.natAbs_natCast]
      exact gap_dvd_of_le hodd
  have hnext : ((2 * k + 1) * twoPow 1073 : Nat) < (k + 1) * unitsPerOne := by
    rw [hsplit, Nat.add_mul, Nat.one_mul, ← hhalf]
    have := twoPow_pos 1073
    omega
  have hlimit := mul_unitsPerOne_lt_limit (show k + 1 ≤ twoPow 53 by omega)
  have hone : (0 : Int) < unitsPerOne := Int.natCast_pos.2 unitsPerOne_pos
  refine ⟨by omega, ?_, ?_⟩
  · rw [Int.fdiv_eq_ediv_of_nonneg _ (Int.le_of_lt hone)]
    exact Int.ediv_nonneg hnonneg (Int.le_of_lt hone)
  · rw [Int.fdiv_eq_ediv_of_nonneg _ (Int.le_of_lt hone)]
    apply Int.le_of_lt_add_one
    apply Int.ediv_lt_of_lt_mul hone
    calc rounded (l + t) 1 ≤ ((2 * k + 1) * twoPow 1073 : Nat) := hbound
      _ < (((k + 1) * unitsPerOne : Nat) : Int) := Int.ofNat_lt.2 hnext
      _ = (k + 1) * unitsPerOne := by push_cast; rfl

/-- A fraction of `k` pixels is at most `k` pixels long, in either direction. -/
theorem units?_ofInt_mul {k : Nat} (hk : k ≤ twoPow 53) {x : Binary64} {f : Int}
    (hx : x.units? = some f) (hf : 0 ≤ f ∧ f ≤ unitsPerOne) :
    ∃ l : Int, 0 ≤ l ∧ l ≤ k * unitsPerOne ∧ (ofInt k * x).units? = some l ∧
      (ofInt (-(k : Int)) * x).units? = some (-l) := by
  have hright : (ofInt k).units? = some (k * unitsPerOne) := units?_ofInt (by simpa using hk)
  have hleft : (ofInt (-(k : Int))).units? = some (-(k : Int) * unitsPerOne) :=
    units?_ofInt (by simpa using hk)
  have hwhole : (0 : Int) ≤ k * unitsPerOne :=
    Int.mul_nonneg (Int.natCast_nonneg _) (Int.natCast_nonneg _)
  have hnonneg : 0 ≤ rounded (k * unitsPerOne * f) unitsPerOne :=
    rounded_nonneg (Int.mul_nonneg hwhole hf.1) _
  have hle : rounded (k * unitsPerOne * f) unitsPerOne ≤ k * unitsPerOne := by
    apply rounded_le_of_le _ unitsPerOne_pos
    · exact Int.mul_le_mul_of_nonneg_left hf.2 hwhole
    · rw [Int.natAbs_mul, Int.natAbs_natCast, Int.natAbs_natCast]
      exact gap_dvd_of_le hk
  have hlimit : (rounded (k * unitsPerOne * f) unitsPerOne).natAbs < limit := by
    have hbound := mul_unitsPerOne_lt_limit hk
    push_cast [← Int.ofNat_lt] at hbound
    omega
  refine ⟨_, hnonneg, hle, ?_, ?_⟩
  · rw [units?_mul hright hx]
    exact inRange?_of_lt hlimit
  · rw [units?_mul hleft hx, Int.neg_mul, Int.neg_mul, rounded_neg]
    exact inRange?_of_lt (by rwa [Int.natAbs_neg])

theorem floor?_of_units? {x : Binary64} {n : Int} (h : x.units? = some n) :
    x.floor? = some (n.fdiv unitsPerOne) := by
  rw [floor?, h, Option.map_some]

theorem ceil?_of_units? {x : Binary64} {n : Int} (h : x.units? = some n) :
    x.ceil? = some (-(-n).fdiv unitsPerOne) := by
  rw [ceil?, h, Option.map_some]

/-- A fraction of `k` pixels leads to one of the next `k` pixels, in either direction. -/
theorem exists_pixels {k : Nat} (hk : k < twoPow 52) {x : Binary64} {f : Int}
    (hx : x.units? = some f) (hf : 0 ≤ f ∧ f ≤ unitsPerOne) :
    ∃ j : Int, 0 ≤ j ∧ j ≤ k ∧ (ofInt k * x + tolerance).floor? = some j ∧
      (ofInt (-(k : Int)) * x - tolerance).ceil? = some (-j) := by
  have hbits : k ≤ twoPow 53 := Nat.le_trans (Nat.le_of_lt hk) (twoPow_le_twoPow (by decide))
  obtain ⟨l, hl, hle, hright, hleft⟩ := units?_ofInt_mul hbits hx hf
  obtain ⟨t, ht, htle⟩ := units?_tolerance
  obtain ⟨hlimit, hnonneg, hpixels⟩ := fdiv_rounded_add hk htle hl hle
  have hadd : (ofInt k * x + tolerance).units? = some (rounded (l + t) 1) := by
    rw [units?_add hright ht]
    exact inRange?_of_lt hlimit
  have hsub : (ofInt (-(k : Int)) * x - tolerance).units? = some (-rounded (l + t) 1) := by
    rw [units?_sub hleft ht, rounded_sub, Int.neg_neg]
    exact inRange?_of_lt (by rwa [Int.natAbs_neg])
  refine ⟨_, hnonneg, hpixels, floor?_of_units? hadd, ?_⟩
  rw [ceil?_of_units? hsub, Int.neg_neg]

theorem fraction_nan (range : Range) : fraction range .nan = .nan := by
  rw [fraction, sub_nan_left, div_nan_left]

/-- No more pixels are taken than the range has. -/
theorem exists_pixels_of_confine (husable : range.isUsable = true) (v : Binary64) {k : Nat}
    (hk : k < twoPow 52) :
    ∃ j : Int, 0 ≤ j ∧ j ≤ k ∧
      (ofInt k * fraction range (confine range v) + tolerance).floor?.getD 0 = j ∧
      (ofInt (-(k : Int)) * fraction range (confine range v) - tolerance).ceil?.getD 0 = -j := by
  obtain ⟨lo, hi, hlo, hhi, hlt⟩ := Range.exists_units_of_isUsable husable
  by_cases hv : v = .nan
  · have hordered : range.lo.atMost range.hi = true := by
      rw [atMost_of_units? hlo hhi, decide_eq_true (Int.le_of_lt hlt)]
    refine ⟨0, Int.le_refl 0, Int.natCast_nonneg k, ?_, ?_⟩
    · rw [hv, confine_nan hordered, fraction_nan, mul_nan_right, add_nan_left]
      rfl
    · rw [hv, confine_nan hordered, fraction_nan, mul_nan_right, sub_nan_left]
      rfl
  · obtain ⟨n, hn, hin⟩ := units?_confine hlo hhi (Int.le_of_lt hlt) hv
    obtain ⟨f, hf, hfraction⟩ := units?_fraction husable hlo hhi hn hin
    obtain ⟨j, hj, hjk, hfloor, hceil⟩ := exists_pixels hk hf hfraction
    exact ⟨j, hj, hjk, by rw [hfloor, Option.getD_some], by rw [hceil, Option.getD_some]⟩

section Word

variable {a b : Int32}

theorem toInt_sub_of_nonneg (ha : 0 ≤ a.toInt) (hb : 0 ≤ b.toInt) :
    (a - b).toInt = a.toInt - b.toInt := by
  have halt := a.toInt_lt
  have hblt := b.toInt_lt
  rw [Int32.toInt_sub]
  exact Int.bmod_eq_of_le (by omega) (by omega)

theorem toInt_add_ofInt {n : Int} (h : 0 ≤ a.toInt + n) (hlt : a.toInt + n < 2 ^ 31) :
    (a + Int32.ofInt n).toInt = a.toInt + n := by
  have hsum : a + Int32.ofInt n = Int32.ofInt (a.toInt + n) := by
    rw [Int32.ofInt_add, Int32.ofInt_toInt]
  rw [hsum]
  exact Int32.toInt_ofInt_of_le (by omega) hlt

end Word

/-- A number is drawn between the first pixel and the last, whichever of them is further on. -/
theorem toInt_coordinate (husable : range.isUsable = true) {first last : Int32}
    (hfirst : 0 ≤ first.toInt) (hlast : 0 ≤ last.toInt) (v : Binary64) :
    Min.min first.toInt last.toInt ≤ (coordinate range first last (confine range v)).toInt ∧
      (coordinate range first last (confine range v)).toInt ≤ Max.max first.toInt last.toInt := by
  have hfirstLt := first.toInt_lt
  have hlastLt := last.toInt_lt
  have hspan : (last - first).toInt = last.toInt - first.toInt := toInt_sub_of_nonneg hlast hfirst
  have hzero : last - first = 0 ↔ last.toInt = first.toInt := by
    rw [← Int32.toInt_inj, hspan, Int32.toInt_zero]
    omega
  have hpos : 0 < last - first ↔ first.toInt < last.toInt := by
    rw [Int32.lt_iff_toInt_lt, hspan, Int32.toInt_zero]
    omega
  have hbits : ∀ k : Nat, k < 2 ^ 31 → k < twoPow 52 :=
    fun k hk => Nat.lt_trans hk (by decide)
  rw [coordinate]
  by_cases heq : last.toInt = first.toInt
  · rw [if_pos (hzero.2 heq)]
    omega
  · rw [if_neg (heq ∘ hzero.1), hspan]
    by_cases hright : first.toInt < last.toInt
    · obtain ⟨k, hk⟩ := Int.eq_ofNat_of_zero_le (show 0 ≤ last.toInt - first.toInt by omega)
      obtain ⟨j, hj, hjk, hfloor, -⟩ := exists_pixels_of_confine husable v (hbits k (by omega))
      rw [if_pos (hpos.2 hright), hk, hfloor, toInt_add_ofInt (by omega) (by omega)]
      omega
    · obtain ⟨k, hk⟩ := Int.eq_ofNat_of_zero_le (show 0 ≤ first.toInt - last.toInt by omega)
      have hback : last.toInt - first.toInt = -(k : Int) := by omega
      obtain ⟨j, hj, hjk, -, hceil⟩ := exists_pixels_of_confine husable v (hbits k (by omega))
      rw [if_neg (hright ∘ hpos.1), hback, hceil, toInt_add_ofInt (by omega) (by omega)]
      omega

end Drawing

end BenchChart
