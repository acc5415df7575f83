import BenchChart.Binary64.Rounding

/-!
# Binary64 arithmetic

Sums, differences, products and quotients are the exact results rounded once. An exact zero takes
the sign that its operands agree on, and is positive if they disagree. What has no result, such as
the difference of two infinities of one sign, is NaN.
-/

namespace BenchChart

namespace Binary64

/-- The number nearest to an exact count of units; `zeroSign` is the sign of a zero. -/
def ofExactUnits (zeroSign : Bool) (n : Int) : Binary64 :=
  if n = 0 then zero zeroSign else ofUnits (decide (n < 0)) n.natAbs 1

def add : Binary64 → Binary64 → Binary64
  | .finite s m _, .finite t n _ => ofExactUnits (s && t) (signed s m + signed t n)
  | .finite _ _ _, .infinite t => .infinite t
  | .infinite s, .finite _ _ _ => .infinite s
  | .infinite s, .infinite t => if s = t then .infinite s else .nan
  | _, _ => .nan

def sub (a b : Binary64) : Binary64 := add a b.neg

def mul : Binary64 → Binary64 → Binary64
  | .finite s m _, .finite t n _ => ofUnits (s != t) (m * n) unitsPerOne
  | .finite s m _, .infinite t => if m = 0 then .nan else .infinite (s != t)
  | .infinite s, .finite t n _ => if n = 0 then .nan else .infinite (s != t)
  | .infinite s, .infinite t => .infinite (s != t)
  | _, _ => .nan

def div : Binary64 → Binary64 → Binary64
  | .finite s m _, .finite t n _ =>
    if n = 0 then (if m = 0 then .nan else .infinite (s != t))
    else ofUnits (s != t) (m * unitsPerOne) n
  | .finite s _ _, .infinite t => zero (s != t)
  | .infinite s, .finite t _ _ => .infinite (s != t)
  | _, _ => .nan

instance : Add Binary64 := ⟨add⟩

instance : Sub Binary64 := ⟨sub⟩

instance : Mul Binary64 := ⟨mul⟩

instance : Div Binary64 := ⟨div⟩

instance : Neg Binary64 := ⟨neg⟩

def floor? (x : Binary64) : Option Int := x.units?.map fun n => n.fdiv unitsPerOne

def ceil? (x : Binary64) : Option Int := x.units?.map fun n => -((-n).fdiv unitsPerOne)

/-- The whole number nearest to a finite number; a half goes away from zero. -/
def nearest? : Binary64 → Option Int
  | .finite s n _ => some (signed s ((2 * n + unitsPerOne) / (2 * unitsPerOne)))
  | _ => none

end Binary64

end BenchChart
