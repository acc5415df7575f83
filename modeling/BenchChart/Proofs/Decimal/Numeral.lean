import BenchChart.Decimal.Numeral
import BenchChart.Proofs.Text.Blank

/-!
# The characters of numerals

Numerals are made of digits, letters, points and signs. None of these is a blank, so trimming leaves
a numeral as it is. `Digits` and `RealText` are the texts that are read as a count or as a real
number, with the value that is read.
-/

namespace BenchChart

namespace Numeral

def isLetter (c : Char) : Bool :=
  decide (65 ≤ c.toNat ∧ c.toNat ≤ 90) || decide (97 ≤ c.toNat ∧ c.toNat ≤ 122)

def isPart (c : Char) : Bool := c.isDigit || isLetter c || c == '.' || c == '+' || c == '-'

theorem isPart_of_isDigit {c : Char} (h : c.isDigit = true) : isPart c = true := by
  simp [isPart, h]

theorem not_isBlank_of_isPart {c : Char} (h : isPart c = true) : Text.isBlank c = false := by
  simp only [isPart, isLetter, Bool.or_eq_true, decide_eq_true_eq, beq_iff_eq] at h
  rcases h with (((h | h) | rfl) | rfl) | rfl
  · have hdigit : 48 ≤ c.toNat ∧ c.toNat ≤ 57 := Char.isDigit_iff_toNat.1 h
    simp only [Text.isBlank, Bool.or_eq_false_iff, decide_eq_false_iff_not, beq_eq_false_iff_ne]
    omega
  · simp only [Text.isBlank, Bool.or_eq_false_iff, decide_eq_false_iff_not, beq_eq_false_iff_ne]
    omega
  all_goals decide

theorem isLetter_of_toLower {c : Char} (h : isLetter c.toLower = true) : isLetter c = true := by
  by_cases hupper : c.val ≥ 'A'.val ∧ c.val ≤ 'Z'.val
  · have hrange : 65 ≤ c.toNat ∧ c.toNat ≤ 90 := by
      rwa [ge_iff_le, UInt32.le_iff_toNat_le, UInt32.le_iff_toNat_le] at hupper
    simp [isLetter, hrange]
  · have hsame : c.toLower = c := dif_neg hupper
    rwa [hsame] at h

theorem isPart_of_name {cs : List Char} {name : String} (hname : name.toList.all isLetter = true)
    (h : String.ofList (cs.map Char.toLower) = name) : ∀ c ∈ cs, isPart c = true := by
  intro c hc
  rw [← h, String.toList_ofList, List.all_eq_true] at hname
  simp [isPart, isLetter_of_toLower (hname _ (List.mem_map_of_mem hc))]

theorem isPart_of_splitSign {cs : List Char} (h : ∀ c ∈ (splitSign cs).2, isPart c = true) :
    ∀ c ∈ cs, isPart c = true := by
  revert h
  fun_cases splitSign cs with
  | case1 rest => exact fun h => List.forall_mem_cons.2 ⟨by decide, h⟩
  | case2 rest => exact fun h => List.forall_mem_cons.2 ⟨by decide, h⟩
  | case3 => exact id

theorem isDigit_of_digits? {cs : List Char} {n : Nat} (h : digits? cs = some n) :
    ∀ c ∈ cs, c.isDigit = true := by
  simp only [digits?, Option.ite_none_left_eq_some, Bool.or_eq_true, not_or] at h
  simpa using h.1.2

theorem isPart_of_exponent? {cs : List Char} {e : Int} (h : exponent? cs = some e) :
    ∀ c ∈ cs, isPart c = true := by
  cases cs with
  | nil => simp
  | cons c cs =>
      rw [exponent?] at h
      split at h
      · next hmark =>
          obtain ⟨_, hvalue, _⟩ := Option.map_eq_some_iff.1 h
          obtain ⟨n, hn, _⟩ := Option.bind_eq_some_iff.1 hvalue
          have hc : isPart c = true := by rcases hmark with rfl | rfl <;> decide
          refine List.forall_mem_cons.2 ⟨hc, isPart_of_splitSign ?_⟩
          exact fun d hd => isPart_of_isDigit (isDigit_of_digits? hn d hd)
      · cases h

theorem isPart_of_takeWhile {cs : List Char}
    (h : ∀ c ∈ cs.dropWhile Char.isDigit, isPart c = true) : ∀ c ∈ cs, isPart c = true := by
  intro c hc
  rw [← List.takeWhile_append_dropWhile (p := Char.isDigit) (l := cs)] at hc
  rcases List.mem_append.1 hc with hc | hc
  · exact isPart_of_isDigit (List.all_eq_true.1 List.all_takeWhile c hc)
  · exact h c hc

theorem isPart_of_decimal? {cs : List Char} {d : Decimal} (h : decimal? cs = some d) :
    ∀ c ∈ cs, isPart c = true := by
  apply isPart_of_takeWhile
  simp only [decimal?] at h
  split at h
  · next tail htail =>
      obtain ⟨_, h⟩ := Option.ite_none_left_eq_some.1 h
      obtain ⟨e, he, _⟩ := Option.map_eq_some_iff.1 h
      have hpoint : isPart '.' = true := by decide
      rw [htail]
      exact List.forall_mem_cons.2 ⟨hpoint, isPart_of_takeWhile (isPart_of_exponent? he)⟩
  · obtain ⟨_, h⟩ := Option.ite_none_left_eq_some.1 h
    obtain ⟨e, he, _⟩ := Option.map_eq_some_iff.1 h
    exact isPart_of_exponent? he

/-- A real numeral is made of digits, letters, points and signs. -/
theorem isPart_of_real? {cs : List Char} (h : (real? cs).isSome) : ∀ c ∈ cs, isPart c = true := by
  apply isPart_of_splitSign
  rw [real?] at h
  simp only at h
  split at h
  · next hname =>
      rcases hname with hname | hname
      · exact isPart_of_name (by decide +kernel) hname
      · exact isPart_of_name (by decide +kernel) hname
  · split at h
    · next hname => exact isPart_of_name (by decide +kernel) hname
    · rw [Option.isSome_map] at h
      obtain ⟨d, hd⟩ := Option.isSome_iff_exists.1 h
      exact isPart_of_decimal? hd

theorem trim_of_isPart {cs : List Char} (h : ∀ c ∈ cs, isPart c = true) : Text.trim cs = cs :=
  Text.trim_of_not_blank fun c hc => not_isBlank_of_isPart (h c hc)

theorem not_mem_of_isPart {cs : List Char} (h : ∀ c ∈ cs, isPart c = true) {c : Char}
    (hc : isPart c = false) : c ∉ cs := by
  intro hmem
  rw [h c hmem] at hc
  cases hc

structure Digits where
  chars : List Char
  ne_nil : chars ≠ []
  isDigit : ∀ c ∈ chars, c.isDigit = true

structure RealText where
  chars : List Char
  isSome_real? : (real? chars).isSome

namespace Digits

variable (d : Digits)

def value : Nat := Decimal.ofDigitChars d.chars

def ofNat (n : Nat) : Digits where
  chars := Decimal.digitChars n
  ne_nil := Nat.toDigits_ne_nil
  isDigit _ := Decimal.isDigit_of_mem_digitChars

@[simp] theorem value_ofNat (n : Nat) : (ofNat n).value = n := Decimal.ofDigitChars_digitChars n

theorem isPart : ∀ c ∈ d.chars, isPart c = true := fun c hc => isPart_of_isDigit (d.isDigit c hc)

@[simp] theorem trim_chars : Text.trim d.chars = d.chars := trim_of_isPart d.isPart

theorem count?_chars (bound : Nat) :
    count? bound d.chars = if d.value < bound then some d.value else none := by
  have hdigits : digits? d.chars = some d.value := by
    simp [digits?, d.ne_nil, List.all_eq_true.2 d.isDigit, value]
  have hcount : count? bound d.chars = (digits? d.chars).filter (· < bound) := by
    simp only [count?]
    split
    · next rest hchars =>
        have hplus := d.isDigit '+' (by simp [hchars])
        exact absurd hplus (by decide)
    · rfl
  rw [hcount, hdigits]
  simp [Option.filter]

end Digits

namespace RealText

variable (t : RealText)

def value : Binary64 := (real? t.chars).get t.isSome_real?

@[simp] theorem real?_chars : real? t.chars = some t.value := Option.some_get _ |>.symm

theorem isPart : ∀ c ∈ t.chars, isPart c = true := isPart_of_real? t.isSome_real?

@[simp] theorem trim_chars : Text.trim t.chars = t.chars := trim_of_isPart t.isPart

theorem ne_nil : t.chars ≠ [] := by
  intro h
  have hnone : (real? []).isSome = false := by decide +kernel
  rw [← h, t.isSome_real?] at hnone
  cases hnone

end RealText

end Numeral

end BenchChart
