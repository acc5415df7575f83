import BenchChart.Pattern.Escape

/-!
# Classes in brackets

A class in brackets holds characters, ranges, named classes and other classes in brackets. Two
classes side by side are joined; between `&&`, `--` and `~~` stand operands, taken from the left. A
hyphen or closing bracket at the start of a class stands for itself.
-/

namespace BenchChart

namespace Pattern

def AsciiName.ofName? : String → Option AsciiName
  | "alnum" => some .alnum
  | "alpha" => some .alpha
  | "ascii" => some .ascii
  | "blank" => some .blank
  | "cntrl" => some .cntrl
  | "digit" => some .digit
  | "graph" => some .graph
  | "lower" => some .lower
  | "print" => some .print
  | "punct" => some .punct
  | "space" => some .space
  | "upper" => some .upper
  | "word" => some .word
  | "xdigit" => some .xdigit
  | _ => none

/-- Items side by side, the newest first, with the span that they are written in. -/
structure Items where
  span : Span
  newestFirst : List ClassItem

namespace Items

def none (place : Place) : Items := ⟨place.span, []⟩

def add (items : Items) (item : ClassItem) : Items :=
  let first := if items.newestFirst.isEmpty then item.span.first else items.span.first
  ⟨⟨first, item.span.last⟩, item :: items.newestFirst⟩

def join (items : Items) : ClassItem :=
  match items.newestFirst with
  | [] => .empty items.span
  | [item] => item
  | newestFirst => .union items.span newestFirst.reverse

end Items

def applyOp (waiting : Option (ClassOp × ClassItem)) (right : ClassItem) : ClassItem :=
  match waiting with
  | none => right
  | some (op, left) => .combined ⟨left.span.first, right.span.last⟩ op left right

def classOp? : Char → Option ClassOp
  | '&' => some .both
  | '-' => some .without
  | '~' => some .eitherNotBoth
  | _ => none

/-- The character after the next one that is no blank, if blanks mean nothing. A sign for a comment
is passed over once, but not the comment. -/
def peekPastSpace : Reader (Option Char) := do
  let c ← get
  let after := c.rest.tail
  if !c.spaced then return after.head?
  match after.dropWhile Text.isBlank with
  | '#' :: more => return (more.dropWhile Text.isBlank).head? <|> after.head?
  | more => return more.head? <|> after.head?

/-- A named class of ASCII characters, the opening bracket next; nothing is read if there is
none. -/
def asciiClass? : Reader (Option ClassItem) := do
  let opened ← get
  bump
  if !(← bumpIf [':']) then
    set opened
    return none
  let negated ← bumpIf ['^']
  let name ← readWhile (· != ':') bump
  match ← bumpIf [':', ']'], AsciiName.ofName? (String.ofList name) with
  | true, some kind => return some (.ascii (← spanFrom opened.place) negated kind)
  | _, _ =>
    set opened
    return none

def bracketAtom : Reader Atom := do
  match ← peek with
  | some '\\' => escape
  | next =>
    let span ← nextSpan
    bump
    return .literal ⟨span, next.getD '\x00', false⟩

def Atom.item : Atom → Reader ClassItem
  | .literal l => return .literal l
  | .short span negated name => return .short span negated name
  | .property span negated query => return .property span negated query
  | a => failAt .classEscapeInvalid a.span

def Atom.boundary : Atom → Reader Literal
  | .literal l => return l
  | a => failAt .classRangeBoundary a.span

/-- An item of a class, or a range between two of them. The span is that of the innermost class. -/
def bracketItem (opened : Span) : Reader ClassItem := do
  let first ← bracketAtom
  skipSpace
  match ← peek with
  | none => failAt .classUnclosed opened
  | some '-' =>
    -- A hyphen at the end of a class or before another one makes no range.
    match ← peekPastSpace with
    | some ']' => first.item
    | some '-' => first.item
    | _ =>
      bumpSpace
      if (← peek).isNone then failAt .classUnclosed opened
      let last ← bracketAtom
      let span : Span := ⟨first.span.first, last.span.last⟩
      let low ← first.boundary
      let high ← last.boundary
      if high.char < low.char then failAt .classRangeInvalid span
      return .range span low high
  | some _ => first.item

/-- The hyphens at the start of a class, at most `fuel`, added to items. -/
def leadingHyphens (start : Place) : Nat → Items → Reader Items
  | 0, items => return items
  | fuel + 1, items => do
    if (← peek) ≠ some '-' then return items
    let span ← nextSpan
    bumpSpace
    if (← peek).isNone then failAt .classUnclosed start.span
    leadingHyphens start fuel (items.add (.literal ⟨span, '-', false⟩))

/-- The start of a class, the opening bracket next: whether it is negated, and the items that stand
for themselves because they come first. -/
def bracketStart : Reader (Bool × Items) := do
  let start ← here
  bumpSpace
  if (← peek).isNone then failFrom .classUnclosed start
  let negated := (← peek) == some '^'
  if negated then
    bumpSpace
    if (← peek).isNone then failFrom .classUnclosed start
  let items ← leadingHyphens start (← get).rest.length (Items.none (← here))
  if items.newestFirst.isEmpty ∧ (← peek) = some ']' then
    let span ← nextSpan
    bumpSpace
    if (← peek).isNone then failFrom .classUnclosed start
    return (negated, items.add (.literal ⟨span, ']', false⟩))
  return (negated, items)

/-- What a class holds up to its closing bracket, which is not read; `fuel` bounds the number of
items. The span is that of the start of the class. -/
def bracketContent : Nat → Span → Option (ClassOp × ClassItem) → Items → Reader ClassItem
  | 0, opened, _, _ => failAt .classUnclosed opened
  | fuel + 1, opened, waiting, items => do
    skipSpace
    match ← peek with
    | none => failAt .classUnclosed opened
    | some ']' => return applyOp waiting items.join
    | some '[' =>
      match ← asciiClass? with
      | some item => bracketContent fuel opened waiting (items.add item)
      | none =>
        let first ← here
        let (negated, start) ← bracketStart
        let content ← bracketContent fuel (← spanFrom first) none start
        bump
        let item := ClassItem.bracketed (← spanFrom first) negated content
        bracketContent fuel opened waiting (items.add item)
    | some c =>
      match classOp? c, (← peekSecond) == some c with
      | some op, true =>
        bump
        bump
        let left := applyOp waiting items.join
        bracketContent fuel opened (some (op, left)) (Items.none (← here))
      | _, _ =>
        let item ← bracketItem opened
        bracketContent fuel opened waiting (items.add item)

def bracketed : Reader Node := do
  let first ← here
  let fuel := (← get).rest.length
  let (negated, start) ← bracketStart
  let content ← bracketContent fuel (← spanFrom first) none start
  bump
  return .bracketed (← spanFrom first) negated content

end Pattern

end BenchChart
