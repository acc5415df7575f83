/-!
# Binary64 numbers

Every finite binary64 number is a whole number of units of `2 ^ -1074`, the gap between the
smallest of them. A finite number is therefore kept as a sign and a count of units, so that its
sums and comparisons are sums and comparisons of integers. Between two powers of two the numbers
stand `2 ^ gapExponent n` units apart; `Representable n` says that `n` units is one of them.

There is one NaN: no operation here can tell two of them apart.
-/

namespace BenchChart

namespace Binary64

def twoPow (k : Nat) : Nat := Nat.pow 2 k

def unitsPerOne : Nat := twoPow 1074

/-- The first magnitude, in units, that is too large to be finite: `2 ^ 1024`. -/
def limit : Nat := twoPow 2098

/-- Numbers near `n` units stand `2 ^ gapExponent n` units apart: 53 binary digits are kept, and
below `2 ^ 53` units every whole number of units is representable. -/
def gapExponent (n : Nat) : Nat := n.log2 - 52

/-- The magnitudes, in units, that a finite number can have. -/
structure Representable (n : Nat) : Prop where
  lt_limit : n < limit
  gap_dvd : twoPow (gapExponent n) ∣ n

theorem twoPow_pos (k : Nat) : 0 < twoPow k := Nat.two_pow_pos k

theorem twoPow_add (j k : Nat) : twoPow (j + k) = twoPow j * twoPow k := Nat.pow_add 2 j k

theorem twoPow_le_twoPow {j k : Nat} (h : j ≤ k) : twoPow j ≤ twoPow k :=
  Nat.pow_le_pow_right (by decide) h

theorem twoPow_lt_twoPow {j k : Nat} (h : j < k) : twoPow j < twoPow k :=
  Nat.pow_lt_pow_right (by decide) h

theorem twoPow_dvd_twoPow {j k : Nat} (h : j ≤ k) : twoPow j ∣ twoPow k := Nat.pow_dvd_pow 2 h

theorem log2_lt_iff {n : Nat} (h : n ≠ 0) (k : Nat) : n.log2 < k ↔ n < twoPow k := Nat.log2_lt h

theorem limit_pos : 0 < limit := twoPow_pos 2098

theorem unitsPerOne_pos : 0 < unitsPerOne := twoPow_pos 1074

theorem representable_zero : Representable 0 := ⟨limit_pos, Nat.dvd_zero _⟩

theorem lt_twoPow_gapExponent (n : Nat) : n < twoPow (53 + gapExponent n) := by
  have h : n < twoPow (n.log2 + 1) := Nat.lt_log2_self
  exact Nat.lt_of_lt_of_le h (twoPow_le_twoPow (by unfold gapExponent; omega))

theorem gapExponent_le {n k : Nat} (h : n < twoPow (53 + k)) : gapExponent n ≤ k := by
  by_cases hn : n = 0
  · subst hn; exact Nat.zero_le _
  · have := (log2_lt_iff hn (53 + k)).2 h
    unfold gapExponent
    omega

end Binary64

inductive Binary64 where
  | nan
  | infinite (negative : Bool)
  | finite (negative : Bool) (units : Nat) (representable : Binary64.Representable units)
  deriving DecidableEq

namespace Binary64

def zero (negative : Bool) : Binary64 := .finite negative 0 representable_zero

instance : Inhabited Binary64 := ⟨zero false⟩

def isFinite : Binary64 → Bool
  | .finite _ _ _ => true
  | _ => false

def isNaN : Binary64 → Bool
  | .nan => true
  | _ => false

def signed (negative : Bool) (units : Nat) : Int :=
  if negative then -units else units

/-- The exact value of a finite number, in units. -/
def units? : Binary64 → Option Int
  | .finite s n _ => some (signed s n)
  | _ => none

/-- `a < b`, false if either is NaN. The two zeros are equal. -/
def less : Binary64 → Binary64 → Bool
  | .finite s m _, .finite t n _ => decide (signed s m < signed t n)
  | .finite _ _ _, .infinite t => !t
  | .infinite s, .finite _ _ _ => s
  | .infinite s, .infinite t => s && !t
  | _, _ => false

/-- `a = b` as numbers: NaN differs from itself and the two zeros are equal. -/
def equals : Binary64 → Binary64 → Bool
  | .finite s m _, .finite t n _ => decide (signed s m = signed t n)
  | .infinite s, .infinite t => s == t
  | _, _ => false

def atMost (a b : Binary64) : Bool := less a b || equals a b

/-- The smaller of two numbers. A NaN gives way to the other number, and of two equal numbers the
first is taken. -/
def min (a b : Binary64) : Binary64 :=
  if a.isNaN || less b a then b else a

/-- The larger of two numbers, with the conventions of `min`. -/
def max (a b : Binary64) : Binary64 :=
  if a.isNaN || less a b then b else a

/-- The nearest number in `lo..hi`. NaN stays NaN. -/
def clamp (lo hi x : Binary64) : Binary64 :=
  if less x lo then lo else if less hi x then hi else x

/-- `clamp` for ends in order; there is no number if they are not, or if one of them is NaN. -/
def clamp? (lo hi x : Binary64) : Option Binary64 :=
  if atMost lo hi then some (clamp lo hi x) else none

def neg : Binary64 → Binary64
  | .nan => .nan
  | .infinite s => .infinite (!s)
  | .finite s n h => .finite (!s) n h

def abs : Binary64 → Binary64
  | .nan => .nan
  | .infinite _ => .infinite false
  | .finite _ n h => .finite false n h

@[simp] theorem isFinite_finite (s : Bool) (n : Nat) (h : Representable n) :
    (finite s n h).isFinite = true := rfl

@[simp] theorem isFinite_nan : nan.isFinite = false := rfl

@[simp] theorem isFinite_infinite (s : Bool) : (infinite s).isFinite = false := rfl

theorem isFinite_eq_isSome (x : Binary64) : x.isFinite = x.units?.isSome := by
  cases x <;> rfl

@[simp] theorem less_nan_left (x : Binary64) : less nan x = false := by cases x <;> rfl

@[simp] theorem less_nan_right (x : Binary64) : less x nan = false := by cases x <;> rfl

theorem less_irrefl (x : Binary64) : less x x = false := by
  cases x with
  | nan => rfl
  | infinite s => cases s <;> rfl
  | finite s n h => simp [less]

theorem equals_self_iff (x : Binary64) : equals x x = true ↔ x ≠ nan := by
  cases x <;> simp [equals]

end Binary64

end BenchChart
