import BenchChart.Binary64.Arithmetic
import BenchChart.Proofs.Binary64.Rounding

/-!
# Results in units

The exact value of a finite number is a whole number of units, and so is that of every result:
`rounded num den` is the whole number of units nearest to a ratio that binary64 can hold, and
`inRange?` leaves out what is too large for it. Comparisons of finite numbers are comparisons of
their units, and sums, products and quotients are roundings of exact ones, so bounds on results
follow from rounding keeping order.
-/

namespace BenchChart

namespace Binary64

/-- A ratio rounded to a magnitude with a sign. -/
def rounded (num : Int) (den : Nat) : Int := signed (decide (num < 0)) (roundUnits num.natAbs den)

/-- Whether two numbers are the same as numbers: NaN is the same as nothing, and zeros are the same
whatever their sign. -/
def SameNumber (x y : Binary64) : Prop := x ≠ nan ∧ x = y ∨ ∃ s t, x = zero s ∧ y = zero t

/-- Units that are few enough to be finite. -/
def inRange? (n : Int) : Option Int := if n.natAbs < limit then some n else none

section Signed

@[simp] theorem natAbs_signed (s : Bool) (n : Nat) : (signed s n).natAbs = n := by
  cases s <;> simp [signed]

@[simp] theorem signed_zero (s : Bool) : signed s 0 = 0 := by cases s <;> rfl

theorem signed_false (n : Nat) : signed false n = n := rfl

theorem signed_not (s : Bool) (n : Nat) : signed (!s) n = -signed s n := by
  cases s <;> simp [signed]

theorem signed_mul_signed (s t : Bool) (m n : Nat) :
    signed s m * signed t n = signed (s != t) (m * n) := by
  cases s <;> cases t <;> simp [signed]

theorem signed_eq_signed_iff {s t : Bool} {m n : Nat} :
    signed s m = signed t n ↔ s = t ∧ m = n ∨ m = 0 ∧ n = 0 := by
  cases s <;> cases t <;> simp only [signed] <;> simp <;> omega

theorem signed_decide_natAbs (n : Int) : signed (decide (n < 0)) n.natAbs = n := by
  by_cases h : n < 0
  · simp only [h, decide_true, signed, if_true]
    omega
  · simp only [h, decide_false, signed, Bool.false_eq_true, if_false]
    omega

theorem equals_iff {x y : Binary64} : x.equals y = true ↔ x.SameNumber y := by
  cases x with
  | nan => simp [equals, SameNumber, zero]
  | infinite s => cases y <;> simp [equals, SameNumber, zero]
  | finite s m hm =>
      cases y with
      | nan => simp [equals, SameNumber, zero]
      | infinite t => simp [equals, SameNumber, zero]
      | finite t n hn => simp [equals, SameNumber, zero, signed_eq_signed_iff]

end Signed

section Rounded

variable {m : Int}

@[simp] theorem rounded_zero (den : Nat) : rounded 0 den = 0 := by simp [rounded]

@[simp] theorem rounded_natCast (num den : Nat) : rounded num den = roundUnits num den := by
  have h : ¬ (num : Int) < 0 := by omega
  rw [rounded, decide_eq_false h, signed_false, Int.natAbs_natCast]

theorem rounded_neg (num : Int) (den : Nat) : rounded (-num) den = -rounded num den := by
  rcases Int.lt_trichotomy num 0 with h | rfl | h
  · have h' : ¬ -num < 0 := by omega
    rw [rounded, rounded, decide_eq_true h, decide_eq_false h', Int.natAbs_neg, ← signed_not]
    rfl
  · simp
  · have h' : ¬ num < 0 := by omega
    have h'' : -num < 0 := by omega
    rw [rounded, rounded, decide_eq_false h', decide_eq_true h'', Int.natAbs_neg, ← signed_not]
    rfl

theorem rounded_signed (s : Bool) (num den : Nat) :
    rounded (signed s num) den = signed s (roundUnits num den) := by
  cases s with
  | false => exact rounded_natCast num den
  | true =>
      change rounded (-(num : Int)) den = -(roundUnits num den : Int)
      rw [rounded_neg, rounded_natCast]

theorem natAbs_rounded (num : Int) (den : Nat) :
    (rounded num den).natAbs = roundUnits num.natAbs den := natAbs_signed _ _

theorem rounded_nonneg {num : Int} (h : 0 ≤ num) (den : Nat) : 0 ≤ rounded num den := by
  obtain ⟨n, rfl⟩ := Int.eq_ofNat_of_zero_le h
  rw [rounded_natCast]
  exact Int.natCast_nonneg _

theorem rounded_le_rounded {num num' : Int} {den den' : Nat} (hden : 0 < den) (hden' : 0 < den')
    (h : num * den' ≤ num' * den) : rounded num den ≤ rounded num' den' := by
  have hpos : ∀ {m n : Nat} {d e : Nat}, 0 < d → 0 < e → (m : Int) * e ≤ n * d →
      rounded m d ≤ rounded n e := by
    intro m n d e hd he hle
    rw [rounded_natCast, rounded_natCast]
    exact_mod_cast roundUnits_le_roundUnits hd he (by exact_mod_cast hle)
  rcases Int.le_total 0 num with hnum | hnum
  · have hnum' : 0 ≤ num' := by
      by_contra hneg
      have hlt : num' * den < 0 := Int.mul_neg_of_neg_of_pos (by omega) (by omega)
      have hle : 0 ≤ num * den' := Int.mul_nonneg hnum (by omega)
      omega
    obtain ⟨m, rfl⟩ := Int.eq_ofNat_of_zero_le hnum
    obtain ⟨n, rfl⟩ := Int.eq_ofNat_of_zero_le hnum'
    exact hpos hden hden' h
  · rcases Int.le_total 0 num' with hnum' | hnum'
    · have hle : 0 ≤ rounded (-num) den := rounded_nonneg (by omega) den
      rw [rounded_neg] at hle
      have hle' := rounded_nonneg hnum' den'
      omega
    · obtain ⟨m, hm⟩ := Int.eq_ofNat_of_zero_le (a := -num) (by omega)
      obtain ⟨n, hn⟩ := Int.eq_ofNat_of_zero_le (a := -num') (by omega)
      have hle : rounded (-num') den' ≤ rounded (-num) den := by
        rw [hm, hn]
        apply hpos hden' hden
        rw [← hm, ← hn, Int.neg_mul, Int.neg_mul]
        omega
      rw [rounded_neg, rounded_neg] at hle
      omega

theorem rounded_of_gap_dvd {n : Int} (h : twoPow (gapExponent n.natAbs) ∣ n.natAbs) :
    rounded n 1 = n := by
  rw [rounded, roundUnits_of_gap_dvd h, signed_decide_natAbs]

theorem rounded_le_of_le {num n : Int} {den : Nat}
    (hn : twoPow (gapExponent n.natAbs) ∣ n.natAbs) (hden : 0 < den) (h : num ≤ n * den) :
    rounded num den ≤ n := by
  have hle : rounded num den ≤ rounded n 1 :=
    rounded_le_rounded hden Nat.one_pos (by simpa using h)
  rwa [rounded_of_gap_dvd hn] at hle

theorem le_rounded_of_le {num n : Int} {den : Nat}
    (hn : twoPow (gapExponent n.natAbs) ∣ n.natAbs) (hden : 0 < den) (h : n * den ≤ num) :
    n ≤ rounded num den := by
  have hle : rounded n 1 ≤ rounded num den :=
    rounded_le_rounded Nat.one_pos hden (by simpa using h)
  rwa [rounded_of_gap_dvd hn] at hle

theorem rounded_le_twoPow {num : Int} {den k : Nat} (hden : 0 < den) (h : num ≤ twoPow k * den) :
    rounded num den ≤ twoPow k := by
  apply rounded_le_of_le _ hden h
  rw [Int.natAbs_natCast]
  exact gap_dvd_twoPow k

theorem rounded_of_representable {n : Int} (h : Representable n.natAbs) : rounded n 1 = n :=
  rounded_of_gap_dvd h.gap_dvd

theorem gap_dvd_rounded (num : Int) (den : Nat) :
    twoPow (gapExponent (rounded num den).natAbs) ∣ (rounded num den).natAbs := by
  rw [natAbs_rounded]
  exact gap_dvd_roundUnits _ _

/-- Taking away is adding on the other side of zero. -/
theorem rounded_sub (m : Int) (p : Nat) : rounded (m - p) 1 = -rounded (-m + p) 1 := by
  rw [← rounded_neg]
  congr 1
  omega

/-- Taking away at least the distance to the next number leads to a smaller number. -/
theorem rounded_sub_lt (hm : Representable m.natAbs) {p : Nat}
    (hp : twoPow (gapExponent m.natAbs) ≤ p) : rounded (m - p) 1 < m := by
  have hgap := twoPow_pos (gapExponent m.natAbs)
  rcases Int.lt_or_le 0 m with hpos | hneg
  · obtain ⟨n, rfl⟩ := Int.eq_ofNat_of_zero_le (Int.le_of_lt hpos)
    rw [Int.natAbs_natCast] at hm hp hgap
    have hle : twoPow (gapExponent n) ≤ n := Nat.le_of_dvd (by omega) hm.gap_dvd
    have hprevious : rounded (n - p) 1 ≤ (n - twoPow (gapExponent n) : Nat) := by
      apply rounded_le_of_le _ Nat.one_pos (by omega)
      rw [Int.natAbs_natCast]
      exact gap_dvd_previous hm.gap_dvd
    omega
  · -- Below zero and at it, the number moves away from zero.
    obtain ⟨n, hn⟩ := Int.eq_ofNat_of_zero_le (a := -m) (by omega)
    rw [← Int.natAbs_neg, hn, Int.natAbs_natCast] at hm hp hgap
    have hnext : n + twoPow (gapExponent n) ≤ roundUnits (n + p) 1 :=
      le_roundUnits_of_le (gap_dvd_next hm.gap_dvd) Nat.one_pos (by omega)
    rw [rounded_sub, hn, ← Int.natCast_add, rounded_natCast]
    omega

/-- Adding at least the distance to the next number leads to a larger number. -/
theorem lt_rounded_add (hm : Representable m.natAbs) {p : Nat}
    (hp : twoPow (gapExponent m.natAbs) ≤ p) : m < rounded (m + p) 1 := by
  rw [← Int.natAbs_neg] at hm hp
  have hlt := rounded_sub_lt hm hp
  rw [rounded_sub, Int.neg_neg] at hlt
  omega

theorem inRange?_eq_some_iff {m n : Int} : inRange? m = some n ↔ m.natAbs < limit ∧ m = n := by
  simp [inRange?]

theorem inRange?_of_lt {n : Int} (h : n.natAbs < limit) : inRange? n = some n := if_pos h

end Rounded

section Units

variable {x y : Binary64} {m n : Int}

theorem isFinite_iff : x.isFinite = true ↔ ∃ n, x.units? = some n := by
  rw [isFinite_eq_isSome, Option.isSome_iff_exists]

theorem isFinite_of_units? (h : x.units? = some n) : x.isFinite = true := isFinite_iff.2 ⟨n, h⟩

theorem units?_eq_some_iff :
    x.units? = some n ↔ ∃ s k hk, x = .finite s k hk ∧ signed s k = n := by
  cases x with
  | nan => simp [units?]
  | infinite s => simp [units?]
  | finite s k hk =>
      constructor
      · intro h
        exact ⟨s, k, hk, rfl, Option.some.inj h⟩
      · rintro ⟨_, _, _, h, rfl⟩
        cases h
        rfl

theorem representable_of_units? (h : x.units? = some n) : Representable n.natAbs := by
  obtain ⟨s, k, hk, rfl, rfl⟩ := units?_eq_some_iff.1 h
  rwa [natAbs_signed]

theorem units?_ofUnits (s : Bool) (num den : Nat) :
    (ofUnits s num den).units? = inRange? (rounded (signed s num) den) := by
  rw [rounded_signed, ofUnits, inRange?, natAbs_signed]
  split <;> rfl

theorem units?_ofExactUnits (s : Bool) (n : Int) :
    (ofExactUnits s n).units? = inRange? (rounded n 1) := by
  unfold ofExactUnits
  split
  · next h =>
      subst h
      rw [rounded_zero, inRange?_of_lt (show Int.natAbs 0 < limit from limit_pos), zero, units?,
        signed_zero]
  · rw [units?_ofUnits, signed_decide_natAbs]

theorem less_of_units? (hx : x.units? = some m) (hy : y.units? = some n) :
    less x y = decide (m < n) := by
  obtain ⟨s, k, hk, rfl, rfl⟩ := units?_eq_some_iff.1 hx
  obtain ⟨t, l, hl, rfl, rfl⟩ := units?_eq_some_iff.1 hy
  rfl

theorem equals_of_units? (hx : x.units? = some m) (hy : y.units? = some n) :
    equals x y = decide (m = n) := by
  obtain ⟨s, k, hk, rfl, rfl⟩ := units?_eq_some_iff.1 hx
  obtain ⟨t, l, hl, rfl, rfl⟩ := units?_eq_some_iff.1 hy
  rfl

theorem atMost_of_units? (hx : x.units? = some m) (hy : y.units? = some n) :
    atMost x y = decide (m ≤ n) := by
  rw [atMost, less_of_units? hx hy, equals_of_units? hx hy, ← Bool.decide_or]
  exact decide_eq_decide.2 Int.le_iff_lt_or_eq.symm

theorem not_isNaN_of_units? (hx : x.units? = some m) : x.isNaN = false := by
  obtain ⟨s, k, hk, rfl, rfl⟩ := units?_eq_some_iff.1 hx
  rfl

theorem units?_neg (hx : x.units? = some m) : x.neg.units? = some (-m) := by
  obtain ⟨s, k, hk, rfl, rfl⟩ := units?_eq_some_iff.1 hx
  rw [neg, units?, signed_not]

theorem units?_abs (hx : x.units? = some m) : x.abs.units? = some (m.natAbs : Int) := by
  obtain ⟨s, k, hk, rfl, rfl⟩ := units?_eq_some_iff.1 hx
  rw [abs, units?, natAbs_signed, signed_false]

theorem units?_min (hx : x.units? = some m) (hy : y.units? = some n) :
    (x.min y).units? = some (Min.min m n) := by
  rw [Binary64.min, not_isNaN_of_units? hx, less_of_units? hy hx, Bool.false_or]
  by_cases h : n < m
  · rw [if_pos (decide_eq_true h), hy, Int.min_eq_right (Int.le_of_lt h)]
  · rw [if_neg (by simpa using h), hx, Int.min_eq_left (by omega)]

theorem units?_max (hx : x.units? = some m) (hy : y.units? = some n) :
    (x.max y).units? = some (Max.max m n) := by
  rw [Binary64.max, not_isNaN_of_units? hx, less_of_units? hx hy, Bool.false_or]
  by_cases h : m < n
  · rw [if_pos (decide_eq_true h), hy, Int.max_eq_right (Int.le_of_lt h)]
  · rw [if_neg (by simpa using h), hx, Int.max_eq_left (by omega)]

theorem finite_mul_finite (s t : Bool) {k l : Nat} (hk : Representable k) (hl : Representable l) :
    finite s k hk * finite t l hl = ofUnits (s != t) (k * l) unitsPerOne := by
  change mul (finite s k hk) (finite t l hl) = _
  rw [mul]

theorem finite_div_finite (s t : Bool) {k l : Nat} (hk : Representable k) (hl : Representable l)
    (h : l ≠ 0) : finite s k hk / finite t l hl = ofUnits (s != t) (k * unitsPerOne) l := by
  change div (finite s k hk) (finite t l hl) = _
  rw [div, if_neg h]

theorem units?_add (hx : x.units? = some m) (hy : y.units? = some n) :
    (x + y).units? = inRange? (rounded (m + n) 1) := by
  obtain ⟨s, k, hk, rfl, rfl⟩ := units?_eq_some_iff.1 hx
  obtain ⟨t, l, hl, rfl, rfl⟩ := units?_eq_some_iff.1 hy
  exact units?_ofExactUnits _ _

theorem units?_sub (hx : x.units? = some m) (hy : y.units? = some n) :
    (x - y).units? = inRange? (rounded (m - n) 1) := by
  rw [Int.sub_eq_add_neg]
  exact units?_add hx (units?_neg hy)

theorem units?_mul (hx : x.units? = some m) (hy : y.units? = some n) :
    (x * y).units? = inRange? (rounded (m * n) unitsPerOne) := by
  obtain ⟨s, k, hk, rfl, rfl⟩ := units?_eq_some_iff.1 hx
  obtain ⟨t, l, hl, rfl, rfl⟩ := units?_eq_some_iff.1 hy
  rw [signed_mul_signed, finite_mul_finite, units?_ofUnits]

theorem units?_div (hx : x.units? = some m) (hy : y.units? = some n) (hn : 0 < n) :
    (x / y).units? = inRange? (rounded (m * unitsPerOne) n.natAbs) := by
  obtain ⟨s, k, hk, rfl, rfl⟩ := units?_eq_some_iff.1 hx
  obtain ⟨t, l, hl, rfl, rfl⟩ := units?_eq_some_iff.1 hy
  obtain ⟨rfl, hpos⟩ : t = false ∧ l ≠ 0 := by
    cases t with
    | false => exact ⟨rfl, by rw [signed_false] at hn; omega⟩
    | true => exact absurd hn (by rw [signed, if_pos rfl]; omega)
  rw [finite_div_finite s false hk hl hpos, units?_ofUnits, natAbs_signed, ← signed_mul_signed,
    signed_false]

end Units

section NotFinite

theorem isFinite_of_isFinite_add {x y : Binary64} (h : (x + y).isFinite = true) :
    x.isFinite = true ∧ y.isFinite = true := by
  change (add x y).isFinite = true at h
  cases x <;> cases y <;> simp [add] at h ⊢
  next s t => cases s <;> cases t <;> simp at h

theorem isFinite_of_isFinite_sub {x y : Binary64} (h : (x - y).isFinite = true) :
    x.isFinite = true ∧ y.isFinite = true := by
  obtain ⟨hx, hy⟩ := isFinite_of_isFinite_add (y := y.neg) h
  refine ⟨hx, ?_⟩
  cases y <;> simp_all [neg]

theorem isFinite_of_isFinite_mul {x y : Binary64} (h : (x * y).isFinite = true) :
    x.isFinite = true ∧ y.isFinite = true := by
  change (mul x y).isFinite = true at h
  cases x <;> cases y <;> simp [mul] at h ⊢
  all_goals split at h <;> simp at h

theorem add_nan_left (x : Binary64) : nan + x = .nan := by cases x <;> rfl

theorem sub_nan_left (x : Binary64) : nan - x = .nan := add_nan_left x.neg

theorem div_nan_left (x : Binary64) : nan / x = .nan := by cases x <;> rfl

theorem mul_nan_right (x : Binary64) : x * nan = .nan := by cases x <;> rfl

end NotFinite

section Whole

theorem mul_unitsPerOne_lt_limit {k : Nat} (h : k ≤ twoPow 53) : k * unitsPerOne < limit := by
  have hbound : twoPow 53 * unitsPerOne < limit := by
    rw [unitsPerOne, ← twoPow_add]
    exact twoPow_lt_twoPow (by decide)
  exact Nat.lt_of_le_of_lt (Nat.mul_le_mul_right _ h) hbound

theorem representable_mul_unitsPerOne {k : Nat} (h : k ≤ twoPow 53) :
    Representable (k * unitsPerOne) := ⟨mul_unitsPerOne_lt_limit h, gap_dvd_of_le h⟩

/-- Whole numbers of at most 53 binary digits are exact. -/
theorem units?_ofInt {k : Int} (h : k.natAbs ≤ twoPow 53) :
    (ofInt k).units? = some (k * unitsPerOne) := by
  have hunits : (k * unitsPerOne).natAbs = k.natAbs * unitsPerOne := by
    rw [Int.natAbs_mul, Int.natAbs_natCast]
  have hvalue : signed (decide (k < 0)) (k.natAbs * unitsPerOne) = k * unitsPerOne := by
    rw [← Bool.xor_false (decide (k < 0)), ← Bool.bne_eq_xor, ← signed_mul_signed,
      signed_decide_natAbs, signed_false]
  have hrepresentable : Representable (k * unitsPerOne).natAbs := by
    rw [hunits]
    exact representable_mul_unitsPerOne h
  rw [ofInt, ofRatio, units?_ofUnits, hvalue, rounded_of_representable hrepresentable,
    inRange?_of_lt hrepresentable.lt_limit]

theorem units?_ofNat {k : Nat} (h : k ≤ twoPow 53) :
    (Binary64.ofNat k).units? = some ((k * unitsPerOne : Nat) : Int) := by
  have hrepresentable := representable_mul_unitsPerOne h
  rw [Binary64.ofNat, ofRatio, units?_ofUnits, signed_false, rounded_natCast,
    roundUnits_of_gap_dvd hrepresentable.gap_dvd]
  exact inRange?_of_lt hrepresentable.lt_limit

/-- A ratio is finite if a power of two that is finite bounds it. -/
theorem units?_ofRatio_of_le {num den k : Nat} (hden : 0 < den) (hk : k < 2098)
    (h : num * unitsPerOne ≤ twoPow k * den) :
    (ofRatio false num den).units? = some (roundUnits (num * unitsPerOne) den : Int) ∧
      roundUnits (num * unitsPerOne) den ≤ twoPow k := by
  have hle : roundUnits (num * unitsPerOne) den ≤ twoPow k :=
    roundUnits_le_of_le (gap_dvd_twoPow k) hden h
  have hlimit : (roundUnits (num * unitsPerOne) den : Int).natAbs < limit := by
    rw [Int.natAbs_natCast]
    exact Nat.lt_of_le_of_lt hle (twoPow_lt_twoPow hk)
  refine ⟨?_, hle⟩
  rw [ofRatio, units?_ofUnits, signed_false, rounded_natCast, inRange?_of_lt hlimit]

end Whole

end Binary64

end BenchChart
