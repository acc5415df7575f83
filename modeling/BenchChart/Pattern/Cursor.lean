import BenchChart.Pattern.Fault
import BenchChart.Text.Blank

/-!
# Reading a pattern

A cursor is a place in a pattern with the text after it. A reader moves a cursor forward and returns
what it has read, or fails at a span of the pattern. Blanks and comments are passed over only where
the pattern says so by a flag.
-/

namespace BenchChart

namespace Pattern

structure Cursor where
  place : Place
  rest : List Char
  /-- Whether blanks and comments mean nothing. -/
  spaced : Bool
  names : List (String × Span)

def Cursor.ofPattern (pattern : List Char) : Cursor := ⟨Place.start, pattern, false, []⟩

def Cursor.next (c : Cursor) : Cursor :=
  match c.rest with
  | [] => c
  | x :: rest => { c with place := c.place.after x, rest := rest }

/-- The place after blanks and comments, and the text from there. The flag is set in a comment. -/
def afterSpace : Bool → Place → List Char → Place × List Char
  | _, place, [] => (place, [])
  | true, place, c :: cs => afterSpace (c != '\n') (place.after c) cs
  | false, place, c :: cs =>
    if Text.isBlank c then afterSpace false (place.after c) cs
    else if c = '#' then afterSpace true (place.after c) cs
    else (place, c :: cs)

abbrev Reader := StateT Cursor (Except Error)

def here : Reader Place := return (← get).place

def peek : Reader (Option Char) := return (← get).rest.head?

def peekSecond : Reader (Option Char) := return (← get).rest.tail.head?

def bump : Reader Unit := modify Cursor.next

def skipSpace : Reader Unit := do
  let c ← get
  if c.spaced then
    let (place, rest) := afterSpace false c.place c.rest
    set { c with place := place, rest := rest }

def bumpSpace : Reader Unit := do
  bump
  skipSpace

def bumpIf (text : List Char) : Reader Bool := do
  if text.isPrefixOf (← get).rest then
    modify fun c => text.foldl (fun c _ => c.next) c
    return true
  else return false

def spanFrom (first : Place) : Reader Span := return ⟨first, ← here⟩

def nextSpan : Reader Span := do
  let c ← get
  return ⟨c.place, c.next.place⟩

def failAt {α : Type} (fault : Fault) (span : Span) : Reader α := throw { fault, span }

def failFrom {α : Type} (fault : Fault) (first : Place) : Reader α := do
  failAt fault (← spanFrom first)

def failHere {α : Type} (fault : Fault) : Reader α := do failFrom fault (← here)

def failNext {α : Type} (fault : Fault) : Reader α := do failAt fault (← nextSpan)

/-- The next characters as long as they have a property, at most `fuel` of them. After each of them
the cursor moves as told. -/
def readUpTo (p : Char → Bool) (move : Reader Unit) : Nat → Reader (List Char)
  | 0 => return []
  | fuel + 1 => do
    match ← peek with
    | none => return []
    | some c =>
      if p c then
        move
        return c :: (← readUpTo p move fuel)
      else return []

def readWhile (p : Char → Bool) (move : Reader Unit) : Reader (List Char) := do
  readUpTo p move (← get).rest.length

end Pattern

end BenchChart
