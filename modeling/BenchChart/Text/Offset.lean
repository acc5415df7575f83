import BenchChart.Text.Search

/-!
# Byte offsets in a text

Positions in a text are counted in bytes of its UTF-8 form. A position past the end, or one inside a
character, splits nothing.
-/

namespace BenchChart

namespace Text

def byteLength : List Char → Nat
  | [] => 0
  | c :: cs => c.utf8Size + byteLength cs

def dropBytes? : Nat → List Char → Option (List Char)
  | 0, cs => some cs
  | _ + 1, [] => none
  | n + 1, c :: cs => if c.utf8Size ≤ n + 1 then dropBytes? (n + 1 - c.utf8Size) cs else none

def takeBytes? : Nat → List Char → Option (List Char)
  | 0, _ => some []
  | _ + 1, [] => none
  | n + 1, c :: cs =>
    if c.utf8Size ≤ n + 1 then (takeBytes? (n + 1 - c.utf8Size) cs).map (c :: ·) else none

/-- Where a literal first occurs, or `-1`. -/
def offsetOf (lit cs : List Char) : Int :=
  match cut lit cs with
  | some (before, _) => byteLength before
  | none => -1

/-- Where a literal last occurs, or `-1`. -/
def lastOffsetOf (lit cs : List Char) : Int :=
  match cutLast lit cs with
  | some (before, _) => byteLength before
  | none => -1

/-- A position counted from the end if it is negative, moved into the text if it lies outside. -/
def clampOffset (length : Nat) (position : Int) : Nat :=
  min (if position < 0 then position + length else position).toNat length

/-- The text between two positions. It is empty if they are in the wrong order or if one lies inside
a character. -/
def slice (cs : List Char) (start stop : Int) : List Char :=
  let first := clampOffset (byteLength cs) start
  let last := clampOffset (byteLength cs) stop
  if first < last then ((dropBytes? first cs).bind (takeBytes? (last - first))).getD []
  else []

@[simp] theorem byteLength_nil : byteLength [] = 0 := rfl

@[simp] theorem byteLength_cons (c : Char) (cs : List Char) :
    byteLength (c :: cs) = c.utf8Size + byteLength cs := rfl

theorem byteLength_append (cs ds : List Char) :
    byteLength (cs ++ ds) = byteLength cs + byteLength ds := by
  induction cs with
  | nil => simp
  | cons c cs ih => simp [ih, Nat.add_assoc]

theorem clampOffset_le (length : Nat) (position : Int) : clampOffset length position ≤ length :=
  Nat.min_le_right _ _

end Text

end BenchChart
