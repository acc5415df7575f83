import BenchChart.Binary64.Rounding

/-!
# Decimal numbers

A decimal number is a whole number of units of a power of ten. `Decimal.toBinary64` reads it as the
nearest binary64 number. Powers of ten far outside the range of binary64 are never computed: a
number of at least `10 ^ 310` is infinite, and one below `10 ^ -331` is zero.
-/

namespace BenchChart

/-- The number `digits * 10 ^ exponent`. -/
structure Decimal where
  digits : Nat
  exponent : Int
  deriving DecidableEq, Repr

namespace Decimal

def digitChars (n : Nat) : List Char := Nat.toDigits 10 n

def ofDigitChars (cs : List Char) : Nat := Nat.ofDigitChars 10 cs 0

/-- How many digits a natural number has; zero has one. -/
def length (n : Nat) : Nat := (digitChars n).length

theorem ofDigitChars_digitChars (n : Nat) : ofDigitChars (digitChars n) = n :=
  Nat.ofDigitChars_toDigits (by decide) (by decide)

theorem isDigit_of_mem_digitChars {n : Nat} {c : Char} (h : c ∈ digitChars n) :
    c.isDigit = true :=
  Nat.isDigit_of_mem_toDigits (by decide) (by decide) h

def ratio (d : Decimal) : Nat × Nat :=
  match d.exponent with
  | .ofNat e => (d.digits * Nat.pow 10 e, 1)
  | .negSucc e => (d.digits, Nat.pow 10 (e + 1))

def roundUnits (d : Decimal) : Nat :=
  Binary64.roundUnits (d.ratio.1 * Binary64.unitsPerOne) d.ratio.2

/-- The power of ten that a number is less than, and at least a tenth of. -/
def places (d : Decimal) : Int := length d.digits + d.exponent

def toBinary64 (negative : Bool) (d : Decimal) : Binary64 :=
  if d.digits = 0 then .zero negative
  else if 310 < d.places then .infinite negative
  else if d.places < -330 then .zero negative
  else Binary64.ofRatio negative d.ratio.1 d.ratio.2

def trim (d : Decimal) : Decimal :=
  if h : d.digits ≠ 0 ∧ d.digits % 10 = 0 then
    trim ⟨d.digits / 10, d.exponent + 1⟩
  else d
termination_by d.digits
decreasing_by omega

end Decimal

end BenchChart
