/-!
# Matching

A regular expression is built from steps over one character and checks of a place between two
characters. It is matched by sets of places: from the places where a match can start,
`Regex.reach` gives those where it can end, and a text has a match if there are any. A set of
places is a number whose binary digits say which places are in it.

A repetition goes on from place to place only forwards. After as many copies as the text has
characters, another copy leads nowhere new, so no more copies than that are ever tried. Of what may
be repeated without bound already, one copy leads everywhere.
-/

namespace BenchChart

namespace Pattern

/-- A regular expression over steps `σ` and checks `τ`. -/
inductive Regex (σ τ : Type) where
  | empty
  | step (s : σ)
  | check (t : τ)
  | sequence (first second : Regex σ τ)
  | either (first second : Regex σ τ)
  | repeated (least : Nat) (most : Option Nat) (body : Regex σ τ)

namespace Regex

variable {σ τ σ' τ' : Type}

def map (f : σ → σ') (g : τ → τ') : Regex σ τ → Regex σ' τ'
  | .empty => .empty
  | .step s => .step (f s)
  | .check t => .check (g t)
  | .sequence first second => .sequence (first.map f g) (second.map f g)
  | .either first second => .either (first.map f g) (second.map f g)
  | .repeated least most body => .repeated least most (body.map f g)

def ofList : List (Regex σ τ) → Regex σ τ
  | [] => .empty
  | [r] => r
  | r :: rest => .sequence r (ofList rest)

def choice : List (Regex σ τ) → Regex σ τ
  | [] => .empty
  | [r] => r
  | r :: rest => .either r (choice rest)

/-- The places after the given number of copies of a move. -/
def copies (move : Nat → Nat) : Nat → Nat → Nat
  | 0, places => places
  | n + 1, places => if places = 0 then 0 else copies move n (move places)

/-- The places `seen` and those after at most the given number of copies of a move, which start
from `newest`. -/
def upTo (move : Nat → Nat) : Nat → Nat → Nat → Nat
  | 0, seen, _ => seen
  | n + 1, seen, newest =>
    let next := move newest
    if seen ||| next = seen then seen else upTo move n (seen ||| next) next

/-- Whether two matches one after the other are known to make a single match, as where nothing
bounds the number of copies. -/
def isTransitive : Regex σ τ → Bool
  | .empty | .check _ => true
  | .repeated _ none _ => true
  | .sequence .empty r => r.isTransitive
  | .sequence r .empty => r.isTransitive
  | _ => false

/-- The places where a match can end that starts at one of the given places. Steps and checks are
given by the places where they are possible, and `size` is the number of characters. -/
def reach (size : Nat) : Regex Nat Nat → Nat → Nat
  | .empty, places => places
  | .step possible, places => (places &&& possible) <<< 1
  | .check possible, places => places &&& possible
  | .sequence first second, places => second.reach size (first.reach size places)
  | .either first second, places => first.reach size places ||| second.reach size places
  | .repeated least most body, places =>
    if body.isTransitive ∧ least ≤ 1 ∧ most ≠ some 0 then
      -- More than one copy leads nowhere else.
      (if least = 0 then places else 0) ||| body.reach size places
    else
      let least' := min least (size + 1)
      let more := match most with
        | none => size + 1
        | some most => min (most - least) (size + 1)
      let start := copies (body.reach size) least' places
      upTo (body.reach size) more start start

end Regex

/-- The places with a property, given from the first one on. -/
def placesWhere : List Bool → Nat
  | [] => 0
  | b :: rest => (if b then 1 else 0) ||| placesWhere rest <<< 1

def stepPlaces (text : List Char) (accepts : Char → Bool) : Nat := placesWhere (text.map accepts)

def surroundings : Option Char → List Char → List (Option Char × Option Char)
  | before, [] => [(before, none)]
  | before, c :: cs => (before, some c) :: surroundings (some c) cs

def checkPlaces (text : List Char) (holds : Option Char → Option Char → Bool) : Nat :=
  placesWhere ((surroundings none text).map fun (before, after) => holds before after)

structure Step where
  accepts : Char → Bool
  room : Nat

/-- What is claimed about a place, given the characters before and after it, which are missing at
the ends of the text. -/
abbrev Check := Option Char → Option Char → Bool

abbrev Matcher := Regex Step Check

def Matcher.occursIn (m : Matcher) (text : List Char) : Bool :=
  let everywhere := placesWhere (List.replicate (text.length + 1) true)
  let places := m.map (fun step => stepPlaces text step.accepts) (checkPlaces text)
  places.reach text.length everywhere != 0

@[simp] theorem Regex.reach_empty (size places : Nat) :
    Regex.empty.reach size places = places := rfl

end Pattern

end BenchChart
