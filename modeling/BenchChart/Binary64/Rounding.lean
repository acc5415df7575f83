import BenchChart.Binary64.Basic

/-!
# Rounding an exact ratio to binary64

Every operation computes its exact result as a ratio of natural numbers and rounds it once:
`ofUnits negative num den` is the binary64 number nearest to `num / den` units, the one with the
even last digit if two are equally near, and an infinity from half a gap past the largest finite
number on. `ofRatio` takes the ratio itself and not a count of units.
-/

namespace BenchChart

namespace Binary64

/-- The whole number nearest to `num / den`; of two equally near ones the even one. -/
def roundQuotient (num den : Nat) : Nat :=
  let q := num / den
  let r := num % den
  if 2 * r < den then q
  else if den < 2 * r then q + 1
  else q + q % 2

/-- The magnitude nearest to `num / den` units that has 53 significant binary digits. -/
def roundUnits (num den : Nat) : Nat :=
  let k := gapExponent (num / den)
  roundQuotient num (den * twoPow k) * twoPow k

theorem roundQuotient_le_succ (num den : Nat) : roundQuotient num den ≤ num / den + 1 := by
  simp only [roundQuotient]
  split
  · omega
  · split <;> omega

theorem roundQuotient_zero_left (den : Nat) : roundQuotient 0 den = 0 := by
  simp only [roundQuotient, Nat.zero_div, Nat.zero_mod, Nat.mul_zero]
  split <;> simp_all

theorem roundQuotient_gap_le (num den : Nat) :
    roundQuotient num (den * twoPow (gapExponent (num / den))) ≤ twoPow 53 := by
  refine Nat.le_trans (roundQuotient_le_succ _ _) ?_
  have h := lt_twoPow_gapExponent (num / den)
  rw [twoPow_add] at h
  rw [← Nat.div_div_eq_div_mul]
  exact (Nat.div_lt_iff_lt_mul (twoPow_pos _)).2 h

/-- A product with at most 53 binary digits besides its factors of two lies on its own grid. -/
theorem gap_dvd_of_le {r k : Nat} (h : r ≤ twoPow 53) :
    twoPow (gapExponent (r * twoPow k)) ∣ r * twoPow k := by
  rcases Nat.eq_or_lt_of_le h with hr | hr
  · subst hr
    rw [← twoPow_add]
    exact twoPow_dvd_twoPow (gapExponent_le (twoPow_lt_twoPow (by omega)))
  · have hlt : r * twoPow k < twoPow (53 + k) := by
      rw [twoPow_add]
      exact Nat.mul_lt_mul_of_pos_right hr (twoPow_pos k)
    exact Nat.dvd_trans (twoPow_dvd_twoPow (gapExponent_le hlt)) (Nat.dvd_mul_left _ _)

theorem gap_dvd_roundUnits (num den : Nat) :
    twoPow (gapExponent (roundUnits num den)) ∣ roundUnits num den :=
  gap_dvd_of_le (roundQuotient_gap_le num den)

@[simp] theorem roundUnits_zero_left (den : Nat) : roundUnits 0 den = 0 := by
  simp [roundUnits, roundQuotient_zero_left]

theorem roundUnits_of_gap_dvd {n : Nat} (h : twoPow (gapExponent n) ∣ n) : roundUnits n 1 = n := by
  have hpos : 0 < twoPow (gapExponent n) := twoPow_pos _
  have hmod : n % twoPow (gapExponent n) = 0 := Nat.mod_eq_zero_of_dvd h
  simp only [roundUnits, Nat.div_one, Nat.one_mul, roundQuotient, hmod, Nat.mul_zero, hpos,
    ↓reduceIte]
  exact Nat.div_mul_cancel h

/-- The number nearest to `num / den` units. -/
def ofUnits (negative : Bool) (num den : Nat) : Binary64 :=
  if h : roundUnits num den < limit then
    .finite negative (roundUnits num den) ⟨h, gap_dvd_roundUnits num den⟩
  else .infinite negative

def ofRatio (negative : Bool) (num den : Nat) : Binary64 :=
  ofUnits negative (num * unitsPerOne) den

def ofNat (n : Nat) : Binary64 := ofRatio false n 1

def ofInt (n : Int) : Binary64 := ofRatio (decide (n < 0)) n.natAbs 1

theorem ofUnits_of_representable (negative : Bool) {n : Nat} (h : Representable n) :
    ofUnits negative n 1 = .finite negative n h := by
  simp [ofUnits, roundUnits_of_gap_dvd h.gap_dvd, h.lt_limit]

end Binary64

end BenchChart
