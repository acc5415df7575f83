import BenchChart.Pattern.Property
import BenchChart.Pattern.Regex

/-!
# The room that a pattern takes

A pattern is refused if a machine for it would take too much room. The machine has a state for each
byte of a character and for each copy of what is repeated. How many states a class takes depends on
how its characters are spread, so classes beyond ASCII are reckoned by figures for their names.
-/

namespace BenchChart

namespace Pattern

def stateRoom : Nat := 32

def wayRoom : Nat := 8

def charRoom (c : Char) : Nat := stateRoom * c.utf8Size

/-- The room of a class whose members take the given room: it has a start and an end. -/
def classRoom (members : Nat) : Nat := 2 * stateRoom + members

/-- The room that the characters up to the given one take in a class, if those of ASCII take the
given room. -/
def memberRoom (ascii : Nat) (c : Char) : Nat := if c.utf8Size = 1 then ascii else charRoom c

/-- The room of a class of which each range within ASCII takes a state of its own. -/
def rangeRoom : Nat := stateRoom + wayRoom / 2

def beyondAsciiRoom : Nat := 928

def dotRoom : Nat := beyondAsciiRoom + 2 * rangeRoom

def ShortName.room (unicode negated : Bool) (name : ShortName) : Nat :=
  if !unicode then 2 * stateRoom + 4 * wayRoom
  else match name, negated with
    | .digit, false => 5184
    | .digit, true => 12824
    | .space, false => 680
    | .space, true => 1924
    | .word, false => 50316
    | .word, true => 46900

def Query.room (query : Query) : Nat :=
  let name := match query with
    | .named name => name
    | .valued _ value => value
  match plainName name with
  | "l" | "letter" | "alpha" | "alphabetic" => 43216
  | "lu" | "uppercaseletter" | "ll" | "lowercaseletter" => 27000
  | _ => 10000

mutual

/-- The room that what stands in brackets takes in a class, if a range within ASCII takes the given
room. -/
def ClassItem.room (unicode : Bool) (ascii : Nat) : ClassItem → Nat
  | .empty _ => 0
  | .literal l => memberRoom ascii l.char
  | .range _ _ last => memberRoom ascii last.char
  | .ascii _ negated _ => if negated then dotRoom else 4 * ascii
  | .short _ negated name => name.room unicode negated
  | .property _ _ query => query.room
  | .bracketed _ negated content =>
    content.room unicode ascii + if negated then beyondAsciiRoom else 0
  | .union _ items => itemsRoom unicode ascii items
  | .combined _ _ left right => left.room unicode ascii + right.room unicode ascii

def itemsRoom (unicode : Bool) (ascii : Nat) : List ClassItem → Nat
  | [] => 0
  | item :: rest => item.room unicode ascii + itemsRoom unicode ascii rest

end

/-- The room of a class in brackets. What is left out of a negated class parts one range more than
there are members. -/
def ClassItem.bracketRoom (unicode anyCase negated : Bool) (content : ClassItem) : Nat :=
  let ascii := if negated then rangeRoom else wayRoom
  let members := content.room unicode (if anyCase then 2 * ascii else ascii)
  if negated then beyondAsciiRoom + rangeRoom + members else classRoom members

namespace Regex

variable {σ τ : Type}

def marked (r : Regex σ τ) : Regex σ τ := .sequence .empty (.sequence r .empty)

def stays : Regex σ τ → Bool
  | .empty | .check _ => true
  | .step _ => false
  | .sequence first second => first.stays && second.stays
  | .either first second => first.stays && second.stays
  | .repeated _ most body => most == some 0 || body.stays

end Regex

/-- The room of a matcher. What has no characters is never copied. -/
def Matcher.room : Matcher → Nat
  | .empty | .check _ => stateRoom
  | .step s => s.room
  | .sequence first second => Matcher.room first + Matcher.room second
  | .either first second => Matcher.room first + Matcher.room second + stateRoom + wayRoom
  | .repeated least most body =>
    let copy := Matcher.room body
    let choice := stateRoom + wayRoom
    if body.stays then copy + choice
    else match most with
      | none => max least 1 * copy + choice
      | some most => least * copy + (most - least) * (copy + choice)

end Pattern

end BenchChart
