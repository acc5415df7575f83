import BenchChart.Binary64.Arithmetic

/-!
# Ranges of an axis

A range can carry an axis if it is usable: its ends and its span are finite and it is not empty.
`Range.padded` turns the bounds of the values into such a range, always: it adds a margin, leaves
the margin out where that overflows, and falls back to `0..1`.
-/

namespace BenchChart

structure Range where
  lo : Binary64
  hi : Binary64
  deriving DecidableEq

namespace Range

def unit : Range := ⟨Binary64.zero false, Binary64.ofNat 1⟩

/-- Whether an axis can have the range: finite ends, a finite span, and `lo < hi`. -/
def isUsable (r : Range) : Bool :=
  r.lo.isFinite && r.hi.isFinite && (r.hi - r.lo).isFinite && Binary64.less r.lo r.hi

def include? (bounds : Option Range) (x : Binary64) : Option Range :=
  match bounds with
  | none => some ⟨x, x⟩
  | some r => some ⟨r.lo.min x, r.hi.max x⟩

def finiteBounds (values : List Binary64) : Option Range :=
  (values.filter Binary64.isFinite).foldl include? none

def margin : Binary64 := Binary64.ofRatio false 5 100

/-- What is added at each end: a twentieth of the span, or of the only value but at least one. -/
def pad (r : Range) : Binary64 :=
  if r.lo.equals r.hi then (r.lo.abs * margin).max (Binary64.ofNat 1)
  else (r.hi - r.lo) * margin

def widen (r : Range) : Range := ⟨r.lo - r.pad, r.hi + r.pad⟩

def padded : Option Range → Range
  | none => unit
  | some r =>
    if r.widen.isUsable then r.widen
    else if r.isUsable then r
    else unit

@[simp] theorem finiteBounds_nil : finiteBounds [] = none := rfl

@[simp] theorem padded_none : padded none = unit := rfl

end Range

end BenchChart
