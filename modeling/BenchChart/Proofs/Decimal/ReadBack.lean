import BenchChart.Decimal.Shortest
import BenchChart.Proofs.Binary64.Rounding

/-!
# Decimals that read back

A decimal is read as the binary64 number nearest to it: the bounds beyond which a number is infinite
or zero only save time. So decimals of one value are read alike, and the decimal that is chosen for
a magnitude reads back as that magnitude, with its trailing zeros or without them.
-/

namespace BenchChart

namespace Decimal

open Binary64 (unitsPerOne limit twoPow gapExponent)

theorem length_pos (n : Nat) : 0 < length n := Nat.length_toDigits_pos

theorem lt_pow_length (n : Nat) : n < 10 ^ length n :=
  (Nat.length_toDigits_le_iff (by decide) (length_pos n)).1 (Nat.le_refl _)

theorem pow_le_of_lt_length {n k : Nat} (hn : n ≠ 0) (hk : k < length n) : 10 ^ k ≤ n := by
  by_contra hlt
  rcases Nat.eq_zero_or_pos k with rfl | hpos
  · omega
  · have hle := (Nat.length_toDigits_le_iff (by decide) hpos).2 (Nat.lt_of_not_le hlt)
    exact absurd hk (Nat.not_lt.2 hle)

theorem ratio_snd_pos (d : Decimal) : 0 < d.ratio.2 := by
  rw [ratio]
  split
  · exact Nat.one_pos
  · exact Nat.pow_pos (by decide)

theorem ratio_neg (m k : Nat) : ratio ⟨m, -(k : Int)⟩ = (m, 10 ^ k) := by
  cases k with
  | zero => exact congrArg (·, 1) (Nat.mul_one m)
  | succ k => rfl

theorem roundUnits_of_digits_eq_zero {d : Decimal} (h : d.digits = 0) : d.roundUnits = 0 := by
  have hnum : d.ratio.1 = 0 := by
    rw [ratio]
    split <;> simp [h]
  rw [roundUnits, hnum, Nat.zero_mul, Binary64.roundUnits_zero_left]

section Places

variable {d : Decimal} {k : Nat}

theorem pow_mul_le_ratio (hd : d.digits ≠ 0) (h : k < d.places) :
    10 ^ k * d.ratio.2 ≤ d.ratio.1 := by
  obtain ⟨digits, exponent⟩ := d
  have hlength := length_pos digits
  cases exponent with
  | ofNat e =>
      simp only [places, Int.ofNat_eq_natCast] at h
      have hdigits : 10 ^ (length digits - 1) ≤ digits := pow_le_of_lt_length hd (by omega)
      calc 10 ^ k * 1 = 10 ^ k := Nat.mul_one _
        _ ≤ 10 ^ (length digits - 1 + e) := Nat.pow_le_pow_right (by decide) (by omega)
        _ = 10 ^ (length digits - 1) * 10 ^ e := Nat.pow_add 10 _ _
        _ ≤ digits * 10 ^ e := Nat.mul_le_mul_right _ hdigits
  | negSucc e =>
      simp only [places] at h
      calc 10 ^ k * 10 ^ (e + 1) = 10 ^ (k + (e + 1)) := (Nat.pow_add 10 _ _).symm
        _ ≤ digits := pow_le_of_lt_length hd (by omega)

theorem ratio_mul_pow_lt (h : d.places + k ≤ 0) : d.ratio.1 * 10 ^ k < d.ratio.2 := by
  obtain ⟨digits, exponent⟩ := d
  have hlength := length_pos digits
  cases exponent with
  | ofNat e =>
      simp only [places, Int.ofNat_eq_natCast] at h
      omega
  | negSucc e =>
      simp only [places] at h
      calc digits * 10 ^ k < 10 ^ length digits * 10 ^ k :=
            Nat.mul_lt_mul_of_pos_right (lt_pow_length digits) (Nat.pow_pos (by decide))
        _ = 10 ^ (length digits + k) := (Nat.pow_add 10 _ _).symm
        _ ≤ 10 ^ (e + 1) := Nat.pow_le_pow_right (by decide) (by omega)

theorem limit_le_roundUnits (hd : d.digits ≠ 0) (h : 310 < d.places) : limit ≤ d.roundUnits := by
  apply Binary64.le_roundUnits_of_le (Binary64.gap_dvd_twoPow 2098) (ratio_snd_pos d)
  have hpow : limit ≤ 10 ^ 310 * unitsPerOne := by decide +kernel
  calc limit * d.ratio.2 ≤ 10 ^ 310 * unitsPerOne * d.ratio.2 := Nat.mul_le_mul_right _ hpow
    _ = 10 ^ 310 * d.ratio.2 * unitsPerOne := Nat.mul_right_comm _ _ _
    _ ≤ d.ratio.1 * unitsPerOne := Nat.mul_le_mul_right _ (pow_mul_le_ratio hd h)

theorem roundUnits_eq_zero (h : d.places < -330) : d.roundUnits = 0 := by
  have hpow : 2 * unitsPerOne ≤ 10 ^ 331 := by decide +kernel
  have hsmall : 2 * (d.ratio.1 * unitsPerOne) < d.ratio.2 :=
    calc 2 * (d.ratio.1 * unitsPerOne) = d.ratio.1 * (2 * unitsPerOne) := Nat.mul_left_comm _ _ _
      _ ≤ d.ratio.1 * 10 ^ 331 := Nat.mul_le_mul_left _ hpow
      _ < d.ratio.2 := ratio_mul_pow_lt (by omega)
  have hquotient : d.ratio.1 * unitsPerOne / d.ratio.2 = 0 := Nat.div_eq_of_lt (by omega)
  have hgap : d.ratio.2 * twoPow (gapExponent 0) = d.ratio.2 := Nat.mul_one _
  simp only [roundUnits, Binary64.roundUnits, hquotient, hgap, Binary64.roundQuotient]
  rw [Nat.mod_eq_of_lt (by omega), if_pos hsmall, Nat.zero_mul]

end Places

theorem ofRatio_ratio (negative : Bool) (d : Decimal) :
    Binary64.ofRatio negative d.ratio.1 d.ratio.2 =
      if h : d.roundUnits < limit then
        .finite negative d.roundUnits ⟨h, Binary64.gap_dvd_roundUnits _ _⟩
      else .infinite negative := rfl

/-- Reading rounds the value of a decimal once. -/
theorem toBinary64_eq_ofRatio (negative : Bool) (d : Decimal) :
    d.toBinary64 negative = Binary64.ofRatio negative d.ratio.1 d.ratio.2 := by
  have hzero : d.roundUnits = 0 →
      Binary64.ofRatio negative d.ratio.1 d.ratio.2 = .zero negative := by
    intro h
    rw [ofRatio_ratio]
    simp only [h, Binary64.limit_pos, ↓reduceDIte]
    rfl
  rw [toBinary64]
  split
  · next hdigits => rw [hzero (roundUnits_of_digits_eq_zero hdigits)]
  · next hdigits =>
      split
      · next hlarge =>
          rw [ofRatio_ratio, dif_neg (Nat.not_lt.2 (limit_le_roundUnits hdigits hlarge))]
      · split
        · next hsmall => rw [hzero (roundUnits_eq_zero hsmall)]
        · rfl

/-- A decimal that rounds to a magnitude is read as it. -/
theorem toBinary64_of_roundUnits (negative : Bool) {d : Decimal} {n : Nat} (h : d.roundUnits = n)
    (hn : Binary64.Representable n) : d.toBinary64 negative = .finite negative n hn := by
  subst h
  rw [toBinary64_eq_ofRatio, ofRatio_ratio, dif_pos hn.lt_limit]

section Value

/-- Whether two decimals are the same number. -/
def SameValue (d d' : Decimal) : Prop := d.ratio.1 * d'.ratio.2 = d'.ratio.1 * d.ratio.2

theorem roundUnits_of_sameValue {d d' : Decimal} (h : SameValue d d') :
    d.roundUnits = d'.roundUnits := by
  apply Binary64.roundUnits_eq_roundUnits (ratio_snd_pos d) (ratio_snd_pos d')
  rw [Nat.mul_right_comm, h, Nat.mul_right_comm]

/-- A zero at the end of the digits adds a place. -/
theorem sameValue_append_zero (digits : Nat) (exponent : Int) :
    SameValue ⟨digits * 10, exponent⟩ ⟨digits, exponent + 1⟩ := by
  cases exponent with
  | ofNat e =>
      change digits * 10 * 10 ^ e * 1 = digits * 10 ^ (e + 1) * 1
      rw [Nat.pow_succ]
      ring
  | negSucc e =>
      cases e with
      | zero =>
          change digits * 10 * 1 = digits * 10 ^ 0 * 10 ^ 1
          ring
      | succ e =>
          change digits * 10 * 10 ^ (e + 1) = digits * 10 ^ (e + 1 + 1)
          rw [Nat.pow_succ 10 (e + 1)]
          ring

theorem roundUnits_trim (d : Decimal) : d.trim.roundUnits = d.roundUnits := by
  fun_induction trim d with
  | case1 d h ih =>
      have hdigits : d.digits / 10 * 10 = d.digits := by omega
      rw [ih, ← roundUnits_of_sameValue (sameValue_append_zero _ _), hdigits]
  | case2 d h => rfl

theorem roundUnits_exact {n : Nat} (h : twoPow (gapExponent n) ∣ n) :
    (exact n).roundUnits = n := by
  obtain ⟨k, hk⟩ : ∃ k : Nat, k = 1074 := ⟨1074, rfl⟩
  have hexponent : -1074 = -(k : Int) := by omega
  have hexact : exact n = ⟨n * Nat.pow 5 k, -(k : Int)⟩ := by rw [exact, hexponent, ← hk]
  have hunits : unitsPerOne = twoPow k := by rw [hk, unitsPerOne]
  have hpow : n * Nat.pow 5 k * twoPow k * 1 = n * 10 ^ k := by
    rw [Nat.mul_one, Nat.mul_assoc]
    exact congrArg (n * ·) (Nat.mul_pow 5 2 k).symm
  rw [roundUnits, hexact, ratio_neg, hunits]
  exact (Binary64.roundUnits_eq_roundUnits (Nat.pow_pos (by decide)) Nat.one_pos hpow).trans
    (Binary64.roundUnits_of_gap_dvd h)

end Value

theorem roundUnits_whole {n : Nat} (h : twoPow (gapExponent n) ∣ n) (hwhole : n % unitsPerOne = 0) :
    roundUnits ⟨n / unitsPerOne, .ofNat 0⟩ = n := by
  have hunits : n / unitsPerOne * 1 * unitsPerOne = n := by
    rw [Nat.mul_one]
    exact Nat.div_mul_cancel (Nat.dvd_of_mod_eq_zero hwhole)
  change Binary64.roundUnits (n / unitsPerOne * 1 * unitsPerOne) 1 = n
  rw [hunits, Binary64.roundUnits_of_gap_dvd h]

/-- The decimal that is chosen for a magnitude reads back. -/
theorem roundUnits_shortest {n : Nat} (h : twoPow (gapExponent n) ∣ n) :
    (shortest n).roundUnits = n := by
  rw [shortest]
  split
  · next hzero =>
      subst hzero
      exact roundUnits_of_digits_eq_zero rfl
  · rw [roundUnits_trim]
    cases hfound : (List.range 17).findSome? fun (k : Nat) => onGrid? n (leadingExponent n - k) with
    | none =>
        rw [Option.getD_none]
        exact roundUnits_exact h
    | some d =>
        obtain ⟨k, -, hk⟩ := List.exists_of_findSome?_eq_some hfound
        rw [Option.getD_some]
        exact roundUnits_of_onGrid? hk

end Decimal

end BenchChart
