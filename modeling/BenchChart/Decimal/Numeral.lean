import BenchChart.Decimal.Basic

/-!
# Reading numerals

Two kinds of numerals: counts, which are digits after an optional plus sign, and real numerals,
which have an optional sign, digits with an optional point and an optional exponent, or are a name
of an infinity or of NaN in any case. Nothing may stand before or after a numeral.
-/

namespace BenchChart

namespace Numeral

def digits? (cs : List Char) : Option Nat :=
  if cs.isEmpty || !cs.all Char.isDigit then none else some (Decimal.ofDigitChars cs)

def count? (bound : Nat) (cs : List Char) : Option Nat :=
  let body := match cs with
    | '+' :: rest => rest
    | _ => cs
  (digits? body).filter (· < bound)

def splitSign : List Char → Bool × List Char
  | '-' :: cs => (true, cs)
  | '+' :: cs => (false, cs)
  | cs => (false, cs)

/-- The value of an exponent with its mark; an absent exponent is zero. -/
def exponent? : List Char → Option Int
  | [] => some 0
  | c :: cs =>
    if c = 'e' ∨ c = 'E' then
      let (negative, ds) := splitSign cs
      (digits? ds).map fun n => if negative then -n else n
    else none

/-- The value of digits with an optional point and exponent. A digit must stand on at least one
side of the point. -/
def decimal? (cs : List Char) : Option Decimal :=
  let whole := cs.takeWhile Char.isDigit
  let afterWhole := cs.dropWhile Char.isDigit
  let (fraction, rest) := match afterWhole with
    | '.' :: tail => (tail.takeWhile Char.isDigit, tail.dropWhile Char.isDigit)
    | _ => ([], afterWhole)
  if whole.isEmpty && fraction.isEmpty then none
  else (exponent? rest).map fun e =>
    ⟨Decimal.ofDigitChars (whole ++ fraction), e - fraction.length⟩

def real? (cs : List Char) : Option Binary64 :=
  let (negative, body) := splitSign cs
  let name := String.ofList (body.map Char.toLower)
  if name = "inf" ∨ name = "infinity" then some (.infinite negative)
  else if name = "nan" then some .nan
  else (decimal? body).map (Decimal.toBinary64 negative)

end Numeral

end BenchChart
