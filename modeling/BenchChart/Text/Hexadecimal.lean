/-!
# Numbers in base sixteen

Digits in base sixteen, read and written. Reading takes small and capital letters alike.
-/

namespace BenchChart

namespace Text

def hexDigit? (c : Char) : Option Nat :=
  if c.isDigit then some (c.toNat - '0'.toNat)
  else if 'a' ≤ c ∧ c ≤ 'f' then some (c.toNat - 'a'.toNat + 10)
  else if 'A' ≤ c ∧ c ≤ 'F' then some (c.toNat - 'A'.toNat + 10)
  else none

/-- The number that digits stand for, the most significant first. -/
def hexNumber? (cs : List Char) : Option Nat :=
  (cs.mapM hexDigit?).map fun digits => digits.foldl (fun n d => n * 16 + d) 0

def hexChars (n : Nat) : List Char := Nat.toDigits 16 n

def hexByte (b : UInt8) : List Char :=
  let digits := (hexChars b.toNat).map Char.toUpper
  if digits.length < 2 then '0' :: digits else digits

@[simp] theorem hexNumber?_nil : hexNumber? [] = some 0 := rfl

end Text

end BenchChart
