import BenchChart.Decimal.Basic

/-!
# The shortest decimal that reads back

`shortest units` is the decimal with the fewest digits that rounds to a magnitude of `units` units,
and of those the nearest one. For each number of digits the two neighbours of the magnitude on that
decimal grid are tried: if any number on the grid reads back, one of the two does. Of two equally
near ones the larger is taken.
-/

namespace BenchChart

namespace Decimal

open Binary64 (unitsPerOne)

/-- The place of the first digit: the `e` with `10 ^ e ≤ value < 10 ^ (e + 1)`. Below one it is
found from the number of digits of the reciprocal. -/
def leadingExponent (units : Nat) : Int :=
  if unitsPerOne ≤ units then length (units / unitsPerOne) - 1
  else -length ((unitsPerOne - 1) / units)

/-- A magnitude in multiples of `10 ^ grid`, as a ratio. -/
def gridRatio (units : Nat) (grid : Int) : Nat × Nat :=
  match grid with
  | .ofNat e => (units, unitsPerOne * Nat.pow 10 e)
  | .negSucc e => (units * Nat.pow 10 (e + 1), unitsPerOne)

/-- The nearest multiple of `10 ^ grid` that reads back, if one does. -/
def onGrid? (units : Nat) (grid : Int) : Option Decimal :=
  let r := gridRatio units grid
  let low : Decimal := ⟨r.1 / r.2, grid⟩
  let high : Decimal := ⟨r.1 / r.2 + 1, grid⟩
  -- The lower neighbour gives way if the other one reads back and is not further away.
  if low.roundUnits = units ∧ (high.roundUnits ≠ units ∨ 2 * (r.1 % r.2) < r.2) then some low
  else if high.roundUnits = units then some high
  else none

def exact (units : Nat) : Decimal := ⟨units * Nat.pow 5 1074, -1074⟩

/-- The shortest decimal that reads back as a magnitude. Seventeen digits always suffice. -/
def shortest (units : Nat) : Decimal :=
  if units = 0 then ⟨0, 0⟩
  else
    let lead := leadingExponent units
    let found := (List.range 17).findSome? fun (n : Nat) => onGrid? units (lead - n)
    (found.getD (exact units)).trim

theorem roundUnits_of_onGrid? {units : Nat} {grid : Int} {d : Decimal}
    (h : onGrid? units grid = some d) : d.roundUnits = units := by
  simp only [onGrid?] at h
  split at h
  · next hlow => cases h; exact hlow.1
  · split at h
    · next hhigh => cases h; exact hhigh
    · cases h

end Decimal

end BenchChart
