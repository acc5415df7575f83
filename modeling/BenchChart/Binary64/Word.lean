import BenchChart.Binary64.Basic

/-!
# Binary64 bit patterns

A magnitude's bit pattern is its number in the list of all finite magnitudes. Below `2 ^ 53` units
that is the count of units itself, and each further power of two adds `2 ^ 52` numbers.
-/

namespace BenchChart

namespace Binary64

/-- The 63 low bits of a finite number: its biased exponent and the fraction. -/
def magnitudeWord (units : Nat) : Nat :=
  gapExponent units * twoPow 52 + units / twoPow (gapExponent units)

/-- The 64 bits of a number. NaN has the quiet pattern without payload. -/
def word : Binary64 → UInt64
  | .nan => 0x7ff8000000000000
  | .infinite s => (if s then 0x8000000000000000 else 0) ||| 0x7ff0000000000000
  | .finite s n _ => (if s then 0x8000000000000000 else 0) ||| (magnitudeWord n).toUInt64

@[simp] theorem magnitudeWord_zero : magnitudeWord 0 = 0 := by decide

end Binary64

end BenchChart
