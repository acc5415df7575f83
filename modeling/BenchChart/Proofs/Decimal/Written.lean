import BenchChart.Decimal.Style
import BenchChart.Proofs.Decimal.Numeral
import BenchChart.Proofs.Decimal.ReadBack
import Mathlib.Data.List.TakeWhile

/-!
# Reading what is written

Numbers that are written positionally, with a point in each of them, are read back: whatever digits
are chosen, what is read has the same value, which is nearest to the number that was written.
-/

namespace BenchChart

namespace Decimal

theorem ofDigitChars_append_zeros (cs : List Char) (k : Nat) :
    ofDigitChars (cs ++ zeros k) = ofDigitChars cs * 10 ^ k := by
  rw [ofDigitChars, Nat.ofDigitChars_append, zeros, Nat.ofDigitChars_replicate_zero, Nat.mul_comm]
  rfl

theorem ofDigitChars_zeros_append (k : Nat) (cs : List Char) :
    ofDigitChars (zeros k ++ cs) = ofDigitChars cs := by
  rw [ofDigitChars, Nat.ofDigitChars_append, zeros, Nat.ofDigitChars_replicate_zero, Nat.mul_zero]
  rfl

theorem isDigit_of_mem_zeros {k : Nat} {c : Char} (h : c ∈ zeros k) : c.isDigit = true := by
  rw [List.eq_of_mem_replicate h]
  rfl

structure Pointed where
  whole : List Char
  fraction : List Char
  ne_nil : whole ≠ []
  isDigit_whole : ∀ c ∈ whole, c.isDigit = true
  isDigit_fraction : ∀ c ∈ fraction, c.isDigit = true

namespace Pointed

def chars (p : Pointed) : List Char := p.whole ++ '.' :: p.fraction

def value (p : Pointed) : Decimal :=
  ⟨ofDigitChars (p.whole ++ p.fraction), -(p.fraction.length : Int)⟩

theorem value_eq {p : Pointed} {n k : Nat} (hdigits : ofDigitChars (p.whole ++ p.fraction) = n)
    (hlength : p.fraction.length = k) : p.value = ⟨n, -(k : Int)⟩ := by
  rw [value, hdigits, hlength]

/-- A whole number with zeros at its end and one after the point. -/
def ofWhole (n k : Nat) : Pointed where
  whole := digitChars n ++ zeros k
  fraction := zeros 1
  ne_nil h := Nat.toDigits_ne_nil (List.append_eq_nil_iff.1 h).1
  isDigit_whole c hc := by
    rcases List.mem_append.1 hc with hc | hc
    · exact isDigit_of_mem_digitChars hc
    · exact isDigit_of_mem_zeros hc
  isDigit_fraction _ := isDigit_of_mem_zeros

theorem chars_ofWhole (n k : Nat) : (ofWhole n k).chars = digitChars n ++ zeros k ++ ['.', '0'] :=
  rfl

theorem value_ofWhole (n k : Nat) : (ofWhole n k).value = ⟨n * 10 ^ k * 10, -(1 : Nat)⟩ := by
  apply value_eq _ rfl
  change ofDigitChars (digitChars n ++ zeros k ++ zeros 1) = _
  rw [ofDigitChars_append_zeros, ofDigitChars_append_zeros, ofDigitChars_digitChars, Nat.pow_one]

/-- A number with a digit after the point has all its digits. -/
theorem exists_positional (n e : Nat) : ∃ p : Pointed,
    p.chars = positional ⟨n, .negSucc e⟩ ∧ p.value = ⟨n, .negSucc e⟩ := by
  have hdigit : ∀ c ∈ digitChars n, c.isDigit = true := fun _ => isDigit_of_mem_digitChars
  have hexponent : Int.negSucc e = -((e + 1 : Nat) : Int) := rfl
  by_cases hcount : e + 1 < (digitChars n).length
  · let p : Pointed := {
      whole := (digitChars n).take ((digitChars n).length - (e + 1))
      fraction := (digitChars n).drop ((digitChars n).length - (e + 1))
      ne_nil := by
        rw [ne_eq, ← List.length_eq_zero_iff, List.length_take]
        omega
      isDigit_whole := fun c hc => hdigit c (List.mem_of_mem_take hc)
      isDigit_fraction := fun c hc => hdigit c (List.mem_of_mem_drop hc) }
    refine ⟨p, (if_pos hcount).symm, ?_⟩
    rw [hexponent]
    apply value_eq
    · rw [List.take_append_drop, ofDigitChars_digitChars]
    · rw [List.length_drop]
      omega
  · let p : Pointed := {
      whole := zeros 1
      fraction := zeros (e + 1 - (digitChars n).length) ++ digitChars n
      ne_nil := List.cons_ne_nil _ _
      isDigit_whole := fun _ => isDigit_of_mem_zeros
      isDigit_fraction := by
        intro c hc
        rcases List.mem_append.1 hc with hc | hc
        · exact isDigit_of_mem_zeros hc
        · exact hdigit c hc }
    refine ⟨p, (if_neg hcount).symm, ?_⟩
    rw [hexponent]
    apply value_eq
    · rw [ofDigitChars_zeros_append, ofDigitChars_zeros_append, ofDigitChars_digitChars]
    · rw [List.length_append, zeros, List.length_replicate]
      omega

theorem roundUnits_value_ofWhole (n k : Nat) :
    (ofWhole n k).value.roundUnits = roundUnits ⟨n, .ofNat k⟩ := by
  apply roundUnits_of_sameValue
  rw [value_ofWhole, SameValue, ratio_neg]
  exact Nat.mul_one (n * 10 ^ k * 10)

/-- What is written of a decimal has a point after it at the latest, and the same value. -/
theorem exists_written (d : Decimal) : ∃ p : Pointed,
    p.chars = d.positional ++ (if 0 ≤ d.exponent then ['.', '0'] else []) ∧
      p.value.roundUnits = d.roundUnits := by
  obtain ⟨digits, exponent⟩ := d
  cases exponent with
  | ofNat e =>
      have hexponent : 0 ≤ (Decimal.mk digits (.ofNat e)).exponent := Int.natCast_nonneg e
      refine ⟨ofWhole digits e, ?_, roundUnits_value_ofWhole digits e⟩
      rw [if_pos hexponent]
      rfl
  | negSucc e =>
      have hexponent : ¬ 0 ≤ (Decimal.mk digits (.negSucc e)).exponent :=
        Int.not_le.2 (Int.negSucc_lt_zero e)
      obtain ⟨p, hchars, hvalue⟩ := exists_positional digits e
      refine ⟨p, ?_, by rw [hvalue]⟩
      rw [if_neg hexponent, List.append_nil, hchars]

theorem decimal?_chars (p : Pointed) : Numeral.decimal? p.chars = some p.value := by
  obtain ⟨whole, fraction, hne, hwhole, hfraction⟩ := p
  have hpoint : ¬ Char.isDigit '.' = true := by decide
  have htake : (whole ++ '.' :: fraction).takeWhile Char.isDigit = whole := by
    rw [List.takeWhile_append_of_pos hwhole, List.takeWhile_cons_of_neg hpoint, List.append_nil]
  have hdrop : (whole ++ '.' :: fraction).dropWhile Char.isDigit = '.' :: fraction := by
    rw [List.dropWhile_append_of_pos hwhole, List.dropWhile_cons_of_neg hpoint]
  have hend : fraction.dropWhile Char.isDigit = [] := List.dropWhile_eq_nil_iff.2 hfraction
  have hall : fraction.takeWhile Char.isDigit = fraction :=
    List.takeWhile_eq_self_iff.2 hfraction
  simp [Numeral.decimal?, chars, value, htake, hdrop, hend, hall, hne, Numeral.exponent?]

theorem exists_chars_eq_cons (p : Pointed) : ∃ c rest, p.chars = c :: rest ∧ c.isDigit = true := by
  obtain ⟨c, rest, hwhole⟩ := List.exists_cons_of_ne_nil p.ne_nil
  refine ⟨c, rest ++ '.' :: p.fraction, by rw [chars, hwhole, List.cons_append], ?_⟩
  exact p.isDigit_whole c (by rw [hwhole]; exact List.mem_cons_self)

theorem splitSign_chars (p : Pointed) (s : Bool) :
    Numeral.splitSign ((if s then ['-'] else []) ++ p.chars) = (s, p.chars) := by
  obtain ⟨c, rest, hchars, hdigit⟩ := p.exists_chars_eq_cons
  cases s with
  | true => rfl
  | false =>
      have hplus : c ≠ '+' := by
        rintro rfl
        cases hdigit
      have hminus : c ≠ '-' := by
        rintro rfl
        cases hdigit
      rw [hchars]
      simp [Numeral.splitSign, hplus, hminus]

/-- A digit is no letter, so a numeral that starts with one is no name. -/
theorem lower_chars_ne (p : Pointed) {name : String}
    (hname : name.toList.all Numeral.isLetter = true) :
    String.ofList (p.chars.map Char.toLower) ≠ name := by
  obtain ⟨c, rest, hchars, hdigit⟩ := p.exists_chars_eq_cons
  rintro rfl
  rw [hchars, String.toList_ofList, List.map_cons, List.all_cons, Bool.and_eq_true] at hname
  have hletter := Numeral.isLetter_of_toLower hname.1
  have hrange : 48 ≤ c.toNat ∧ c.toNat ≤ 57 := Char.isDigit_iff_toNat.1 hdigit
  simp only [Numeral.isLetter, Bool.or_eq_true, decide_eq_true_eq] at hletter
  omega

theorem real?_chars (p : Pointed) (s : Bool) :
    Numeral.real? ((if s then ['-'] else []) ++ p.chars) = some (p.value.toBinary64 s) := by
  have hinf := p.lower_chars_ne (show "inf".toList.all Numeral.isLetter = true by decide)
  have hinfinity := p.lower_chars_ne (show "infinity".toList.all Numeral.isLetter = true by decide)
  have hnan := p.lower_chars_ne (show "nan".toList.all Numeral.isLetter = true by decide)
  simp only [Numeral.real?, splitSign_chars, hinf, hinfinity, hnan, or_self, if_false,
    decimal?_chars, Option.map_some]

end Pointed

end Decimal

namespace Style

variable {style : Style}

/-- All numbers have a point in them, and none has an exponent. -/
structure IsPointed (style : Style) : Prop where
  wholeSuffix : style.wholeSuffix = ['.', '0']
  positionalPlaces : style.positionalPlaces = none

theorem IsPointed.exists_magnitude (h : style.IsPointed) {n : Nat}
    (hn : Binary64.Representable n) :
    ∃ p : Decimal.Pointed, p.chars = style.magnitude n ∧ p.value.roundUnits = n := by
  rw [magnitude, h.wholeSuffix]
  split
  · next hwhole =>
      refine ⟨.ofWhole (n / Binary64.unitsPerOne) 0, ?_, ?_⟩
      · rw [Decimal.Pointed.chars_ofWhole, Decimal.zeros, List.replicate_zero, List.append_nil]
      · rw [Decimal.Pointed.roundUnits_value_ofWhole]
        exact Decimal.roundUnits_whole hn.gap_dvd hwhole.2
  · have hplace : n = 0 ∨ style.isPositional (Decimal.leadingExponent n) = true := by
      right
      rw [isPositional, h.positionalPlaces]
    obtain ⟨p, hchars, hvalue⟩ := Decimal.Pointed.exists_written (Decimal.shortest n)
    rw [if_pos hplace]
    exact ⟨p, hchars, hvalue.trans (Decimal.roundUnits_shortest hn.gap_dvd)⟩

/-- What is written is read back, NaN and infinities included. -/
theorem IsPointed.real?_write (h : style.IsPointed) (x : Binary64) :
    Numeral.real? (style.write x) = some x := by
  cases x with
  | nan =>
      have hnan : Numeral.real? ['N', 'a', 'N'] = some .nan := by decide +kernel
      exact hnan
  | infinite s =>
      have hname : ∀ t : Bool, Numeral.real? ((if t then ['-'] else []) ++ ['i', 'n', 'f']) =
          some (.infinite t) := by decide +kernel
      exact hname s
  | finite s n hn =>
      obtain ⟨p, hchars, hround⟩ := h.exists_magnitude hn
      rw [write, ← hchars, p.real?_chars s, Decimal.toBinary64_of_roundUnits s hround hn]

end Style

end BenchChart
