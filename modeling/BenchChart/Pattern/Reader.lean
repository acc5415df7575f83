import BenchChart.Decimal.Basic
import BenchChart.Pattern.Bracket
import BenchChart.Unicode.Property

/-!
# Reading a whole pattern

A pattern is a choice between branches, each of which is a sequence of parts; a part may be
repeated, and a group holds a pattern of its own. Flags hold up to the end of the group that they
stand in.
-/

namespace BenchChart

namespace Pattern

def Flag.ofChar? : Char → Option Flag
  | 'i' => some .anyCase
  | 'm' => some .everyLine
  | 's' => some .dotAll
  | 'U' => some .lazy
  | 'u' => some .unicode
  | 'R' => some .returns
  | 'x' => some .spaced
  | _ => none

/-- A flag or the sign that turns flags off; neither may be repeated. -/
def flagItem (items : List FlagItem) : Reader FlagItem := do
  let span ← nextSpan
  let c := (← peek).getD ':'
  let flag := Flag.ofChar? c
  if c ≠ '-' ∧ flag.isNone then failAt .flagUnknown span
  match items.find? (·.flag == flag) with
  | none => return ⟨span, flag⟩
  | some earlier =>
    let fault := if flag.isNone then Fault.flagNegationRepeated else .flagDuplicate
    throw { fault, span, other := some earlier.span }

/-- Flags up to a colon or closing parenthesis, which is not read; `fuel` bounds their number. -/
def flagItems : Nat → List FlagItem → Reader (List FlagItem)
  | 0, items => return items
  | fuel + 1, items => do
    match ← peek with
    | some ':' => return items
    | some ')' => return items
    | _ =>
      let item ← flagItem items
      bump
      if (← peek).isNone then failHere .flagsUnfinished
      flagItems fuel (items ++ [item])

def flags : Reader (List FlagItem) := do
  let items ← flagItems (← get).rest.length []
  match items.getLast? with
  | some ⟨span, none⟩ => failAt .flagNegationDangling span
  | _ => return items

def isNameChar (c : Char) : Bool :=
  c == '_' || c == '.' || c == '[' || c == ']' || Unicode.isAlphabetic c || Unicode.isNumeric c

def isNameStart (c : Char) : Bool := c == '_' || Unicode.isAlphabetic c

def groupName : Reader Unit := do
  let first ← here
  match ← peek with
  | none => failHere .groupNameUnfinished
  | some '>' => failHere .groupNameEmpty
  | some c => if !isNameStart c then failNext .groupNameInvalid
  let name := String.ofList (← readWhile isNameChar bump)
  let span ← spanFrom first
  match ← peek with
  | none => failHere .groupNameUnfinished
  | some '>' => bump
  | some _ => failNext .groupNameInvalid
  match (← get).names.lookup name with
  | some earlier => throw { fault := .groupNameDuplicate, span, other := some earlier }
  | none => modify fun c => { c with names := c.names ++ [(name, span)] }

inductive Opening where
  | flags (items : List FlagItem)
  | group (items : Option (List FlagItem))

def opening : Reader Opening := do
  let first ← here
  let paren ← nextSpan
  bump
  skipSpace
  for sign in ["?=", "?!", "?<=", "?<!"] do
    if ← bumpIf sign.toList then failFrom .lookAround first
  let inner ← here
  if ← (bumpIf "?P<".toList <||> bumpIf "?<".toList) then
    groupName
    return .group none
  if !(← bumpIf ['?']) then return .group none
  if (← peek).isNone then failAt .groupUnclosed paren
  let items ← flags
  let last ← peek
  bump
  if last = some ':' then return .group (some items)
  if items.isEmpty then failAt .repetitionMissing inner.span
  return .flags items

/-- The part that is repeated: the newest one, unless it is a list of flags. -/
def repeatable (parts : List Node) : Reader (Node × List Node) := do
  match parts with
  | [] => failHere .repetitionMissing
  | .flags _ _ :: _ => failHere .repetitionMissing
  | part :: before => return (part, before)

def repeatPart (part : Node) (before : List Node) (least : Nat) (most : Option Nat) :
    Reader (List Node) := do
  if (← peek) = some '?' then bump
  return .repeated (← spanFrom part.span.first) least most part :: before

/-- A count: `none` if there is no digit. -/
def count? : Reader (Option Nat × Span) := do
  let _ ← readWhile Text.isBlank bump
  let first ← here
  let digits ← readWhile Char.isDigit bumpSpace
  let span ← spanFrom first
  let _ ← readWhile Text.isBlank bumpSpace
  return (if digits.isEmpty then none else some (Decimal.ofDigitChars digits), span)

/-- A count that must be there and fit into 32 bits. -/
def needed (count : Option Nat × Span) : Reader Nat :=
  match count with
  | (none, span) => failAt .countEmpty span
  | (some n, span) => if UInt32.size ≤ n then failAt .decimalInvalid span else return n

def bounds (brace : Place) : Reader (Nat × Option Nat) := do
  let unclosed : Reader Unit := do if (← peek).isNone then failFrom .countUnclosed brace
  skipSpace
  unclosed
  let least ← count?
  unclosed
  if (← peek) = some ',' then
    bumpSpace
    unclosed
    if (← peek) = some '\x7d' then return (← needed least, none)
    let n ← needed least
    return (n, some (← needed (← count?)))
  else
    let n ← needed least
    return (n, some n)

def counted (parts : List Node) : Reader (List Node) := do
  let brace ← here
  let (part, before) ← repeatable parts
  bump
  let (least, most) ← bounds brace
  if (← peek) ≠ some '\x7d' then failFrom .countUnclosed brace
  bumpSpace
  let repeated ← repeatPart part before least most
  match most with
  | none => return repeated
  | some most => if most < least then failFrom .countInvalid brace else return repeated

/-- Parts one after the other as one, given the newest first. -/
def sequence (span : Span) (newestFirst : List Node) : Node :=
  match newestFirst with
  | [] => .empty span
  | [part] => part
  | newestFirst => .sequence span newestFirst.reverse

/-- The branches of a choice that are read, the newest first, and where the choice starts. -/
structure Branches where
  first : Place
  newestFirst : List Node

def choice (branches : Branches) (first : Place) (parts : List Node) : Reader Node := do
  let last := sequence (← spanFrom first) parts
  if branches.newestFirst.isEmpty then return last
  return .alternation (← spanFrom branches.first) (last :: branches.newestFirst).reverse

/-- What a group holds up to its closing parenthesis, which is not read, or a pattern up to its end;
`fuel` bounds the number of parts. The group is given by the span of its opening parenthesis. -/
def content : Nat → Option Span → Branches → Place → List Node → Reader Node
  | 0, _, _, _, _ => failHere .groupUnclosed
  | fuel + 1, group, branches, first, parts => do
    skipSpace
    match ← peek with
    | none =>
      match group with
      | some paren => failAt .groupUnclosed paren
      | none => choice branches first parts
    | some ')' => if group.isNone then failNext .groupUnopened else choice branches first parts
    | some '|' =>
      let branch := sequence (← spanFrom first) parts
      bump
      let branches := { branches with newestFirst := branch :: branches.newestFirst }
      content fuel group branches (← here) []
    | some '(' =>
      let start ← here
      let paren ← nextSpan
      let spaced := (← get).spaced
      match ← opening with
      | .flags items =>
        -- Flags by themselves stay in force up to the end of the group that they stand in.
        modify fun c => { c with spaced := (flagState? .spaced items).getD c.spaced }
        content fuel group branches first (.flags (← spanFrom start) items :: parts)
      | .group items =>
        modify fun c => { c with spaced := (items.bind (flagState? .spaced)).getD c.spaced }
        let inner ← here
        let body ← content fuel (some paren) ⟨inner, []⟩ inner []
        modify fun c => { c with spaced := spaced }
        bump
        content fuel group branches first (.group (← spanFrom start) items body :: parts)
    | some '[' => content fuel group branches first ((← bracketed) :: parts)
    | some '{' => content fuel group branches first (← counted parts)
    | some c =>
      if c = '?' ∨ c = '*' ∨ c = '+' then
        let (part, before) ← repeatable parts
        bump
        let least := if c = '+' then 1 else 0
        let most := if c = '?' then some 1 else none
        content fuel group branches first (← repeatPart part before least most)
      else if c = '\\' then content fuel group branches first (.atom (← escape) :: parts)
      else
        let span ← nextSpan
        bump
        let atom := match c with
          | '.' => Atom.dot span
          | '^' => .assertion span .lineStart
          | '$' => .assertion span .lineEnd
          | c => .literal ⟨span, c, false⟩
        content fuel group branches first (.atom atom :: parts)

def Node.ofPattern (pattern : List Char) : Except Error Node := do
  let start := Cursor.ofPattern pattern
  let (node, _) ← (content (pattern.length + 1) none ⟨start.place, []⟩ start.place []).run start
  node.checkDepth 0
  return node

end Pattern

end BenchChart
