import BenchChart.Proofs.Binary64.Arithmetic
import BenchChart.Proofs.Decimal.Written
import BenchChart.Table
import Mathlib.Data.List.Basic

/-!
# Numbers in a column

Every finite number of a table has a point with digits on both sides of it and no digit that could
be left out: `0` alone follows the point of a whole number, and of no other. A magnitude that is not
whole keeps a digit after its point, since rounding a whole number gives a whole number: below
`2 ^ 53` nothing is rounded, and from there on every binary64 number is whole.
-/

namespace BenchChart

namespace Binary64

theorem unitsPerOne_dvd_roundUnits (k : Nat) : unitsPerOne ∣ roundUnits (k * unitsPerOne) 1 := by
  by_cases hk : k ≤ twoPow 53
  · rw [roundUnits_of_gap_dvd (representable_mul_unitsPerOne hk).gap_dvd]
    exact Nat.dvd_mul_left _ _
  · have hlarge : twoPow (53 + 1074) ≤ k * unitsPerOne := by
      rw [twoPow_add]
      exact Nat.mul_le_mul_right _ (Nat.le_of_not_le hk)
    have hgap : 1074 ≤ gapExponent (k * unitsPerOne) :=
      Nat.le_trans (by decide +kernel) (gapExponent_le_gapExponent hlarge)
    rw [roundUnits, Nat.div_one]
    exact Nat.dvd_trans (twoPow_dvd_twoPow hgap) (Nat.dvd_mul_left _ _)

theorem mod_unitsPerOne_eq_zero_iff {s : Bool} {n : Nat} (h : Representable n) :
    n % unitsPerOne = 0 ↔ ∃ k : Int, (finite s n h).units? = some (k * unitsPerOne) := by
  have hdvd : unitsPerOne ∣ n ↔ (unitsPerOne : Int) ∣ signed s n := by
    rw [← Int.natCast_dvd_natCast, ← Int.dvd_natAbs (b := signed s n), natAbs_signed]
  rw [← Nat.dvd_iff_mod_eq_zero, hdvd]
  constructor
  · rintro ⟨k, hk⟩
    exact ⟨k, congrArg some (hk.trans (Int.mul_comm _ _))⟩
  · rintro ⟨k, hk⟩
    exact ⟨k, (Option.some.inj hk).trans (Int.mul_comm _ _)⟩

end Binary64

namespace Decimal

theorem head?_digitChars_of_le {n : Nat} (h : 10 ≤ n) :
    (digitChars n).head? = (digitChars (n / 10)).head? := by
  have hne : digitChars (n / 10) ≠ [] := Nat.toDigits_ne_nil
  rw [digitChars, Nat.toDigits_eq_if (by decide), if_neg (Nat.not_lt.2 h)]
  exact List.head?_append_of_ne_nil _ hne

/-- The digits of a positive number start with its first one. -/
theorem head?_digitChars_ne {n : Nat} (h : n ≠ 0) : (digitChars n).head? ≠ some '0' := by
  induction n using Nat.strongRecOn with
  | _ n ih =>
    rcases Nat.lt_or_ge n 10 with hlt | hge
    · have hdigits : ∀ d < 10, d ≠ 0 → (digitChars d).head? ≠ some '0' := by decide
      exact hdigits n hlt h
    · rw [head?_digitChars_of_le hge]
      exact ih (n / 10) (by omega) (by omega)

/-- A number with digits after the point starts with its first digit, or with a zero and the
point. -/
theorem positional_cases {n : Nat} (e : Nat) (hn : n ≠ 0) :
    (positional ⟨n, .negSucc e⟩).head? ≠ some '0' ∨
      ∃ cs, positional ⟨n, .negSucc e⟩ = '0' :: '.' :: cs := by
  by_cases hcount : e + 1 < (digitChars n).length
  · left
    have hpositional : positional ⟨n, .negSucc e⟩ = (digitChars n).take _ ++ _ := if_pos hcount
    have htake : (digitChars n).take ((digitChars n).length - (e + 1)) ≠ [] := by
      rw [ne_eq, ← List.length_eq_zero_iff, List.length_take]
      omega
    rw [hpositional, List.head?_append_of_ne_nil _ htake, List.head?_take, if_neg (by omega)]
    exact head?_digitChars_ne hn
  · exact .inr ⟨_, if_neg hcount⟩

theorem trim_digits (d : Decimal) : d.trim.digits = 0 ∨ d.trim.digits % 10 ≠ 0 := by
  fun_induction trim d with
  | case1 d h ih => exact ih
  | case2 d h => omega

theorem exists_shortest_eq_trim {n : Nat} (h : n ≠ 0) : ∃ d : Decimal, shortest n = d.trim :=
  ⟨_, if_neg h⟩

namespace Pointed

/-- Digits stand on both sides of the point, and none of them could be left out. -/
structure IsCanonical (p : Pointed) : Prop where
  whole : p.whole.head? = some '0' → p.whole = ['0']
  fraction_ne_nil : p.fraction ≠ []
  fraction : p.fraction.getLast? = some '0' → p.fraction = ['0']

/-- The last digit of a fraction is that of all digits. -/
theorem getLast?_fraction_ne {p : Pointed} {n e : Nat} (hvalue : p.value = ⟨n, .negSucc e⟩)
    (hn : n % 10 ≠ 0) : p.fraction.getLast? ≠ some '0' := by
  intro hlast
  obtain ⟨front, hfront⟩ := List.getLast?_eq_some_iff.1 hlast
  have hdigits : ofDigitChars (p.whole ++ p.fraction) = n := congrArg Decimal.digits hvalue
  have hzero : p.whole ++ p.fraction = p.whole ++ front ++ zeros 1 := by
    rw [hfront, List.append_assoc]
    rfl
  rw [hzero, ofDigitChars_append_zeros] at hdigits
  omega

theorem whole_of_positional {p : Pointed} {n e : Nat}
    (hchars : p.chars = positional ⟨n, .negSucc e⟩)
    (hn : n ≠ 0) (hhead : p.whole.head? = some '0') : p.whole = ['0'] := by
  obtain ⟨rest, hrest⟩ := List.head?_eq_some_iff.1 hhead
  rw [chars, hrest, List.cons_append] at hchars
  rcases positional_cases e hn with hfirst | ⟨cs, hzero⟩
  · rw [← hchars] at hfirst
    exact absurd rfl hfirst
  · have htail := List.tail_eq_of_cons_eq (hchars.trans hzero)
    cases rest with
    | nil => exact hrest
    | cons c rest =>
        have hdigit := p.isDigit_whole c (by rw [hrest]; simp)
        rw [List.cons_append] at htail
        rw [List.head_eq_of_cons_eq htail] at hdigit
        cases hdigit

theorem isCanonical_ofWhole (n : Nat) : (ofWhole n 0).IsCanonical where
  whole h := by
    have hwhole : (ofWhole n 0).whole = digitChars n := List.append_nil _
    rw [hwhole] at h ⊢
    by_cases hn : n = 0
    · rw [hn]
      rfl
    · exact absurd h (head?_digitChars_ne hn)
  fraction_ne_nil := List.cons_ne_nil _ _
  fraction _ := rfl

theorem isCanonical_of_positional {p : Pointed} {n e : Nat}
    (hchars : p.chars = positional ⟨n, .negSucc e⟩) (hvalue : p.value = ⟨n, .negSucc e⟩)
    (hn : n % 10 ≠ 0) : p.IsCanonical where
  whole := whole_of_positional hchars (by omega)
  fraction_ne_nil h := by
    have hlength := congrArg Decimal.exponent hvalue
    rw [value, h] at hlength
    cases hlength
  fraction h := absurd h (getLast?_fraction_ne hvalue hn)

end Pointed

theorem roundUnits_ofNat (m e : Nat) :
    roundUnits ⟨m, .ofNat e⟩ = Binary64.roundUnits (m * 10 ^ e * Binary64.unitsPerOne) 1 := rfl

/-- The digits that are chosen for a magnitude that is not whole go past the point, and the last of
them is not zero. -/
theorem exists_shortest_eq {n : Nat} (hn : Binary64.Representable n)
    (hwhole : n % Binary64.unitsPerOne ≠ 0) :
    ∃ digits e, shortest n = ⟨digits, .negSucc e⟩ ∧ digits % 10 ≠ 0 := by
  have hround := roundUnits_shortest hn.gap_dvd
  have hpos : n ≠ 0 := by
    rintro rfl
    exact hwhole (Nat.zero_mod _)
  obtain ⟨d, hd⟩ := exists_shortest_eq_trim hpos
  have hdigits : d.trim.digits ≠ 0 := by
    intro hzero
    rw [hd, roundUnits_of_digits_eq_zero hzero] at hround
    exact hpos hround.symm
  have hlast := (trim_digits d).resolve_left hdigits
  rw [hd] at hround ⊢
  generalize d.trim = d at hround hlast
  obtain ⟨digits, exponent⟩ := d
  cases exponent with
  | ofNat e =>
      have hdvd := Binary64.unitsPerOne_dvd_roundUnits (digits * 10 ^ e)
      rw [← roundUnits_ofNat, hround] at hdvd
      exact absurd (Nat.mod_eq_zero_of_dvd hdvd) hwhole
  | negSucc e => exact ⟨digits, e, rfl, hlast⟩

end Decimal

namespace Table

open Binary64 (Representable unitsPerOne)

theorem magnitude_whole {n : Nat} (hwhole : n % unitsPerOne = 0) :
    style.magnitude n = (Decimal.Pointed.ofWhole (n / unitsPerOne) 0).chars := by
  rw [Style.magnitude, if_pos ⟨rfl, hwhole⟩, Decimal.Pointed.chars_ofWhole, Decimal.zeros,
    List.replicate_zero, List.append_nil]
  rfl

theorem magnitude_of_not_whole {n digits e : Nat} (hwhole : n % unitsPerOne ≠ 0)
    (hshortest : Decimal.shortest n = ⟨digits, .negSucc e⟩) :
    style.magnitude n = Decimal.positional ⟨digits, .negSucc e⟩ := by
  have hexponent : ¬ 0 ≤ Int.negSucc e := Int.not_le.2 (Int.negSucc_lt_zero e)
  rw [Style.magnitude, if_neg fun h => hwhole h.2, hshortest, if_pos (.inr rfl), if_neg hexponent,
    List.append_nil]

theorem exists_magnitude {n : Nat} (hn : Representable n) :
    ∃ p : Decimal.Pointed, style.magnitude n = p.chars ∧ p.IsCanonical ∧
      (p.fraction = ['0'] ↔ n % unitsPerOne = 0) := by
  by_cases hwhole : n % unitsPerOne = 0
  · exact ⟨_, magnitude_whole hwhole, Decimal.Pointed.isCanonical_ofWhole _,
      iff_of_true rfl hwhole⟩
  · obtain ⟨digits, e, hshortest, hlast⟩ := Decimal.exists_shortest_eq hn hwhole
    obtain ⟨p, hchars, hvalue⟩ := Decimal.Pointed.exists_positional digits e
    refine ⟨p, (magnitude_of_not_whole hwhole hshortest).trans hchars.symm,
      Decimal.Pointed.isCanonical_of_positional hchars hvalue hlast, iff_of_false ?_ hwhole⟩
    intro hfraction
    exact Decimal.Pointed.getLast?_fraction_ne hvalue hlast (by rw [hfraction]; rfl)

/-- Every finite number is written with digits on both sides of a point, none of which could be left
out, behind a minus if it has the negative sign; the digits after the point are a single zero if and
only if the number is whole. Nothing else is written but the names of the infinities and NaN. -/
theorem write_canonical (x : Binary64) :
    match x with
    | .nan => style.write x = ['N', 'a', 'N']
    | .infinite s => style.write x = (if s then ['-'] else []) ++ ['i', 'n', 'f']
    | .finite s _ _ => ∃ p : Decimal.Pointed,
        style.write x = (if s then ['-'] else []) ++ p.chars ∧ p.IsCanonical ∧
          (p.fraction = ['0'] ↔ ∃ k : Int, x.units? = some (k * unitsPerOne)) := by
  cases x with
  | nan => rfl
  | infinite s => rfl
  | finite s n hn =>
      obtain ⟨p, hchars, hcanonical, hfraction⟩ := exists_magnitude hn
      refine ⟨p, ?_, hcanonical, hfraction.trans (Binary64.mod_unitsPerOne_eq_zero_iff hn)⟩
      rw [Style.write, hchars]

example : style.write (.ofRatio true (2 ^ 53 - 1) 2) = "-4503599627370495.5".toList := by
  decide +kernel

example : style.write (.zero true) = "-0.0".toList := by decide +kernel

end Table

end BenchChart
