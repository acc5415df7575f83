import BenchChart.Decimal.Shortest

/-!
# Writing binary64 numbers

A `Style` holds what differs between the places where numbers are written: what follows a whole
number, whether a whole number is written with all its digits, and which magnitudes are written
positionally. Infinities and NaN are `inf`, `-inf` and `NaN` in every style.
-/

namespace BenchChart

namespace Decimal

def zeros (count : Nat) : List Char := List.replicate count '0'

def positional (d : Decimal) : List Char :=
  let ds := digitChars d.digits
  match d.exponent with
  | .ofNat e => ds ++ zeros e
  | .negSucc e =>
    let count := e + 1
    if count < ds.length then
      ds.take (ds.length - count) ++ '.' :: ds.drop (ds.length - count)
    else '0' :: '.' :: zeros (count - ds.length) ++ ds

def integerChars : Int → List Char
  | .ofNat n => digitChars n
  | .negSucc n => '-' :: digitChars (n + 1)

def scientific (d : Decimal) : List Char :=
  match digitChars d.digits with
  | [] => []
  | c :: cs =>
    let fraction := if cs.isEmpty then [] else '.' :: cs
    c :: fraction ++ 'e' :: integerChars (d.exponent + cs.length)

end Decimal

structure Style where
  wholeSuffix : List Char
  /-- Whether a whole number has all its digits, not only those that are needed to read it back. -/
  exactWhole : Bool
  /-- The places of the first digit, from and below, that are written positionally; all if
  `none`. -/
  positionalPlaces : Option (Int × Int)

namespace Style

open Binary64 (unitsPerOne)

def isPositional (style : Style) (place : Int) : Bool :=
  match style.positionalPlaces with
  | none => true
  | some (lo, hi) => decide (lo ≤ place) && decide (place < hi)

def magnitude (style : Style) (units : Nat) : List Char :=
  if style.exactWhole ∧ units % unitsPerOne = 0 then
    Decimal.digitChars (units / unitsPerOne) ++ style.wholeSuffix
  else
    let d := Decimal.shortest units
    if units = 0 ∨ style.isPositional (Decimal.leadingExponent units) then
      d.positional ++ if 0 ≤ d.exponent then style.wholeSuffix else []
    else d.scientific

def write (style : Style) : Binary64 → List Char
  | .nan => ['N', 'a', 'N']
  | .infinite s => (if s then ['-'] else []) ++ ['i', 'n', 'f']
  | .finite s n _ => (if s then ['-'] else []) ++ style.magnitude n

def format (style : Style) (x : Binary64) : String := String.ofList (style.write x)

/-- Digits alone: no exponent and nothing after a whole number. -/
def plain : Style := ⟨[], false, none⟩

end Style

end BenchChart
