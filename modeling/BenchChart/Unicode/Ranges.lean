import BenchChart.Text.Hexadecimal
import BenchChart.Text.Split

/-!
# Ranges of characters

Tables of characters are written as rows of words: `41-5A` stands for the characters from U+0041 to
U+005A, and `AA` for one character.
-/

namespace BenchChart

namespace Unicode

/-- Characters given by ranges of code points, both ends included. -/
abbrev Ranges := List (Nat × Nat)

namespace Ranges

def contains (ranges : Ranges) (c : Char) : Bool :=
  ranges.any fun (first, last) => decide (first ≤ c.toNat) && decide (c.toNat ≤ last)

def ofWord? (word : List Char) : Option (Nat × Nat) :=
  match Text.split '-' word with
  | [only] => (Text.hexNumber? only).map fun n => (n, n)
  | [first, last] => do return (← Text.hexNumber? first, ← Text.hexNumber? last)
  | _ => none

def ofRow (row : String) : Ranges := (Text.split ' ' row.toList).filterMap ofWord?

def ofRows (rows : List String) : Ranges := rows.flatMap ofRow

@[simp] theorem contains_nil (c : Char) : contains [] c = false := rfl

end Ranges

end Unicode

end BenchChart
