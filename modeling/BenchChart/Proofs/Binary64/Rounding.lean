import BenchChart.Binary64.Rounding
import Mathlib.Tactic.Ring

/-!
# Rounding keeps order

A larger ratio is never rounded to a smaller magnitude: on one grid the quotients are in order, and
between two grids stands a power of two that lies on both. Since a magnitude on its grid is its own
rounding, a ratio that is not above such a magnitude is not rounded above it, and likewise below;
this is all that bounds on sums and quotients need. Ratios that are equal are rounded alike, however
they are written.
-/

namespace BenchChart

namespace Binary64

theorem twoPow_succ (k : Nat) : twoPow (k + 1) = 2 * twoPow k := Nat.pow_succ'

theorem le_roundQuotient (num den : Nat) : num / den ≤ roundQuotient num den := by
  simp only [roundQuotient]
  split
  · exact Nat.le_refl _
  · split <;> omega

/-- If two ratios have the same whole part, their remainders are in the same order. -/
theorem mod_mul_le_mod_mul {num den num' den' : Nat} (hq : num / den = num' / den')
    (h : num * den' ≤ num' * den) : num % den * den' ≤ num' % den' * den := by
  have hsplit : num * den' = den * den' * (num / den) + num % den * den' := by
    conv_lhs => rw [← Nat.div_add_mod num den]
    ring
  have hsplit' : num' * den = den * den' * (num / den) + num' % den' * den := by
    conv_lhs => rw [← Nat.div_add_mod num' den', ← hq]
    ring
  omega

theorem div_le_div_of_mul_le {num den num' den' : Nat} (hden : 0 < den) (hden' : 0 < den')
    (h : num * den' ≤ num' * den) : num / den ≤ num' / den' := by
  rw [Nat.le_div_iff_mul_le hden']
  apply Nat.le_of_mul_le_mul_right _ hden
  calc num / den * den' * den = num / den * den * den' := by ring
    _ ≤ num * den' := Nat.mul_le_mul_right _ (Nat.div_mul_le_self num den)
    _ ≤ num' * den := h

theorem roundQuotient_le_roundQuotient {num den num' den' : Nat} (hden : 0 < den)
    (hden' : 0 < den') (h : num * den' ≤ num' * den) :
    roundQuotient num den ≤ roundQuotient num' den' := by
  rcases Nat.eq_or_lt_of_le (div_le_div_of_mul_le hden hden' h) with hq | hq
  · -- With equal whole parts the comparison with a half decides, and a tie goes the same way.
    have hr := mod_mul_le_mod_mul hq h
    have hhalf : den ≤ 2 * (num % den) → den' ≤ 2 * (num' % den') := by
      intro hle
      apply Nat.le_of_mul_le_mul_right _ hden
      calc den' * den = den * den' := Nat.mul_comm _ _
        _ ≤ 2 * (num % den) * den' := Nat.mul_le_mul_right _ hle
        _ = 2 * (num % den * den') := Nat.mul_assoc _ _ _
        _ ≤ 2 * (num' % den' * den) := Nat.mul_le_mul_left _ hr
        _ = 2 * (num' % den') * den := (Nat.mul_assoc _ _ _).symm
    have hmore : den < 2 * (num % den) → den' < 2 * (num' % den') := by
      intro hlt
      apply Nat.lt_of_mul_lt_mul_right (a := den)
      calc den' * den = den * den' := Nat.mul_comm _ _
        _ < 2 * (num % den) * den' := Nat.mul_lt_mul_of_pos_right hlt hden'
        _ = 2 * (num % den * den') := Nat.mul_assoc _ _ _
        _ ≤ 2 * (num' % den' * den) := Nat.mul_le_mul_left _ hr
        _ = 2 * (num' % den') * den := (Nat.mul_assoc _ _ _).symm
    simp only [roundQuotient, ← hq]
    split
    · split
      · exact Nat.le_refl _
      · split <;> omega
    · split
      · next hlt => rw [if_neg (by have := hmore hlt; omega), if_pos (hmore hlt)]
      · rw [if_neg (by have := hhalf (by omega); omega)]
        split <;> omega
  · calc roundQuotient num den ≤ num / den + 1 := roundQuotient_le_succ num den
      _ ≤ num' / den' := hq
      _ ≤ roundQuotient num' den' := le_roundQuotient num' den'

theorem gapExponent_le_gapExponent {m n : Nat} (h : m ≤ n) : gapExponent m ≤ gapExponent n :=
  gapExponent_le (Nat.lt_of_le_of_lt h (lt_twoPow_gapExponent n))

/-- Where numbers stand more than one unit apart, they have all their 53 digits. -/
theorem twoPow_le_of_gapExponent_pos {n : Nat} (h : 0 < gapExponent n) :
    twoPow (52 + gapExponent n) ≤ n := by
  have hn : n ≠ 0 := by
    rintro rfl
    exact absurd h (by decide)
  have hlog : 52 + gapExponent n = n.log2 := by
    unfold gapExponent at h ⊢
    omega
  rw [hlog]
  exact Nat.log2_self_le hn

theorem roundUnits_le_twoPow (num den : Nat) :
    roundUnits num den ≤ twoPow (53 + gapExponent (num / den)) := by
  rw [twoPow_add]
  exact Nat.mul_le_mul_right _ (roundQuotient_gap_le num den)

theorem twoPow_le_roundUnits {num den : Nat} (h : 0 < gapExponent (num / den)) :
    twoPow (52 + gapExponent (num / den)) ≤ roundUnits num den := by
  have hquotient : twoPow 52 ≤ num / (den * twoPow (gapExponent (num / den))) := by
    rw [← Nat.div_div_eq_div_mul, Nat.le_div_iff_mul_le (twoPow_pos _), ← twoPow_add]
    exact twoPow_le_of_gapExponent_pos h
  rw [twoPow_add]
  exact Nat.mul_le_mul_right _ (Nat.le_trans hquotient (le_roundQuotient _ _))

theorem roundUnits_le_roundUnits {num den num' den' : Nat} (hden : 0 < den) (hden' : 0 < den')
    (h : num * den' ≤ num' * den) : roundUnits num den ≤ roundUnits num' den' := by
  have hgap := gapExponent_le_gapExponent (div_le_div_of_mul_le hden hden' h)
  rcases Nat.eq_or_lt_of_le hgap with hk | hk
  · simp only [roundUnits, ← hk]
    apply Nat.mul_le_mul_right
    have hpos := twoPow_pos (gapExponent (num / den))
    apply roundQuotient_le_roundQuotient (Nat.mul_pos hden hpos) (Nat.mul_pos hden' hpos)
    calc num * (den' * twoPow (gapExponent (num / den)))
        = num * den' * twoPow (gapExponent (num / den)) := (Nat.mul_assoc _ _ _).symm
      _ ≤ num' * den * twoPow (gapExponent (num / den)) := Nat.mul_le_mul_right _ h
      _ = num' * (den * twoPow (gapExponent (num / den))) := Nat.mul_assoc _ _ _
  · -- The power of two where the second grid begins lies between the two roundings.
    calc roundUnits num den ≤ twoPow (53 + gapExponent (num / den)) := roundUnits_le_twoPow num den
      _ ≤ twoPow (52 + gapExponent (num' / den')) := twoPow_le_twoPow (by omega)
      _ ≤ roundUnits num' den' := twoPow_le_roundUnits (by omega)

theorem roundUnits_eq_roundUnits {num den num' den' : Nat} (hden : 0 < den) (hden' : 0 < den')
    (h : num * den' = num' * den) : roundUnits num den = roundUnits num' den' :=
  Nat.le_antisymm (roundUnits_le_roundUnits hden hden' (Nat.le_of_eq h))
    (roundUnits_le_roundUnits hden' hden (Nat.le_of_eq h.symm))

theorem gap_dvd_twoPow (k : Nat) : twoPow (gapExponent (twoPow k)) ∣ twoPow k := by
  have h : 1 ≤ twoPow 53 := twoPow_pos 53
  have hdvd := gap_dvd_of_le h (k := k)
  rwa [Nat.one_mul] at hdvd

/-- What is not above a magnitude on its grid is not rounded above it. -/
theorem roundUnits_le_of_le {num den m : Nat} (hm : twoPow (gapExponent m) ∣ m) (hden : 0 < den)
    (h : num ≤ m * den) : roundUnits num den ≤ m := by
  have hle : roundUnits num den ≤ roundUnits m 1 :=
    roundUnits_le_roundUnits hden Nat.one_pos (by omega)
  rwa [roundUnits_of_gap_dvd hm] at hle

/-- What is not below a magnitude on its grid is not rounded below it. -/
theorem le_roundUnits_of_le {num den m : Nat} (hm : twoPow (gapExponent m) ∣ m) (hden : 0 < den)
    (h : m * den ≤ num) : m ≤ roundUnits num den := by
  have hle : roundUnits m 1 ≤ roundUnits num den :=
    roundUnits_le_roundUnits Nat.one_pos hden (by omega)
  rwa [roundUnits_of_gap_dvd hm] at hle

/-- The next magnitude is one gap further. -/
theorem gap_dvd_next {n : Nat} (h : twoPow (gapExponent n) ∣ n) :
    twoPow (gapExponent (n + twoPow (gapExponent n))) ∣ n + twoPow (gapExponent n) := by
  obtain ⟨q, hq⟩ := h
  have hlt : q < twoPow 53 := by
    have hbound := lt_twoPow_gapExponent n
    rw [Nat.add_comm, twoPow_add] at hbound
    apply Nat.lt_of_mul_lt_mul_left (a := twoPow (gapExponent n))
    omega
  have hnext : n + twoPow (gapExponent n) = (q + 1) * twoPow (gapExponent n) := by
    rw [Nat.add_mul, Nat.one_mul, Nat.mul_comm, ← hq]
  rw [hnext]
  exact gap_dvd_of_le hlt

/-- The magnitude before is one gap away, where the gap may become smaller but no larger. -/
theorem gap_dvd_previous {n : Nat} (h : twoPow (gapExponent n) ∣ n) :
    twoPow (gapExponent (n - twoPow (gapExponent n))) ∣ n - twoPow (gapExponent n) := by
  have hgap : gapExponent (n - twoPow (gapExponent n)) ≤ gapExponent n :=
    gapExponent_le_gapExponent (Nat.sub_le _ _)
  exact Nat.dvd_trans (twoPow_dvd_twoPow hgap) (Nat.dvd_sub h (Nat.dvd_refl _))

end Binary64

end BenchChart
