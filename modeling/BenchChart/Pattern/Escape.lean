import BenchChart.Pattern.Cursor
import BenchChart.Pattern.Node
import BenchChart.Text.Hexadecimal
import BenchChart.Text.Search

/-!
# Escapes in patterns

A backslash takes the meaning from a character that has one, and gives a meaning to most letters.
The readers of this module start at the backslash or right after the letter.
-/

namespace BenchChart

namespace Pattern

def isMeta (c : Char) : Bool := "\\.+*?()|[]\x7b\x7d^$#&-~".toList.contains c

def isEscapable (c : Char) : Bool :=
  isMeta c || (decide (c.toNat < 0x80) && !c.isAlphanum && c != '<' && c != '>')

def control? : Char → Option Char
  | 'a' => some '\x07'
  | 'f' => some '\x0C'
  | 't' => some '\t'
  | 'n' => some '\n'
  | 'r' => some '\r'
  | 'v' => some '\x0B'
  | _ => none

def assertion? : Char → Option Assertion
  | 'A' => some .textStart
  | 'z' => some .textEnd
  | 'b' => some .boundary
  | 'B' => some .noBoundary
  | '<' => some .wordStart
  | '>' => some .wordEnd
  | _ => none

def short? : Char → Option (Bool × ShortName)
  | 'd' => some (false, .digit)
  | 'D' => some (true, .digit)
  | 's' => some (false, .space)
  | 'S' => some (true, .space)
  | 'w' => some (false, .word)
  | 'W' => some (true, .word)
  | _ => none

/-- The number of digits after a letter that introduces a code point. -/
def hexWidth? : Char → Option Nat
  | 'x' => some 2
  | 'u' => some 4
  | 'U' => some 8
  | _ => none

def hexChar? (digits : List Char) : Option Char := do
  let n ← Text.hexNumber? digits
  if n.isValidChar then return Char.ofNat n else failure

def hexDigits : Nat → Reader (List Char)
  | 0 => return []
  | count + 1 => do
    match ← peek with
    | none => failHere .escapeUnfinished
    | some c =>
      if (Text.hexDigit? c).isNone then failNext .hexDigitInvalid
      bumpSpace
      return c :: (← hexDigits count)

def bracedHex : Reader Char := do
  let brace ← here
  bump
  let start ← here
  skipSpace
  let digits ← readWhile (fun c => (Text.hexDigit? c).isSome) bumpSpace
  match ← peek with
  | none => failFrom .escapeUnfinished brace
  | some '\x7d' => pure ()
  | some _ => failNext .hexDigitInvalid
  let stop ← here
  bumpSpace
  if digits.isEmpty then failFrom .hexEmpty brace
  match hexChar? digits with
  | some c => return c
  | none => failAt .hexInvalid ⟨start, stop⟩

def hexLiteral (backslash : Place) (width : Nat) : Reader Atom := do
  match ← peek with
  | none => failHere .escapeUnfinished
  | some '\x7b' =>
    let c ← bracedHex
    return .literal ⟨← spanFrom backslash, c, false⟩
  | some _ =>
    let start ← here
    let digits ← hexDigits width
    match hexChar? digits with
    | some c => return .literal ⟨← spanFrom backslash, c, width == 2⟩
    | none => failFrom .hexInvalid start

def Query.ofChars (cs : List Char) : Query :=
  let valued (separator : List Char) : Option Query :=
    (Text.cut separator cs).map fun (name, value) =>
      .valued (String.ofList name) (String.ofList value)
  (valued ['!', '='] <|> valued [':'] <|> valued ['=']).getD (.named (String.ofList cs))

def propertyClass (backslash : Place) (negated : Bool) : Reader Atom := do
  match ← peek with
  | none => failHere .escapeUnfinished
  | some '\\' => failNext .propertyInvalid
  | some '\x7b' =>
    bumpSpace
    let name ← readWhile (· != '\x7d') bumpSpace
    if (← peek).isNone then failHere .escapeUnfinished
    bump
    return .property (← spanFrom backslash) negated (Query.ofChars name)
  | some c =>
    bumpSpace
    return .property (← spanFrom backslash) negated (.named c.toString)

def isBoundaryChar (c : Char) : Bool := c.isAlpha || c == '-'

def boundary? (name : List Char) : Option Assertion :=
  if name = "start".toList then some .wordStart
  else if name = "end".toList then some .wordEnd
  else if name = "start-half".toList then some .wordStartHalf
  else if name = "end-half".toList then some .wordEndHalf
  else none

/-- The kind of a word boundary between braces, the opening one next. Nothing is read if the braces
can only be those of a count. -/
def boundaryKind (backslash : Place) : Reader Assertion := do
  let opened ← get
  bumpSpace
  match ← peek with
  | none => failFrom .boundaryUnfinished backslash
  | some c =>
    if !isBoundaryChar c then
      set opened
      return .boundary
  let start ← here
  let name ← readWhile isBoundaryChar bumpSpace
  if (← peek) ≠ some '\x7d' then failFrom .boundaryUnclosed opened.place
  let stop ← here
  bump
  match boundary? name with
  | some kind => return kind
  | none => failAt .boundaryUnknown ⟨start, stop⟩

def escape : Reader Atom := do
  let backslash ← here
  bump
  match ← peek with
  | none => failFrom .escapeUnfinished backslash
  | some c =>
    bump
    if c.isDigit then failFrom .backreference backslash
    match hexWidth? c, short? c, control? c, assertion? c with
    | some width, _, _, _ =>
      skipSpace
      hexLiteral backslash width
    | none, some (negated, name), _, _ => return .short (← spanFrom backslash) negated name
    | none, none, some literal, _ => return .literal ⟨← spanFrom backslash, literal, false⟩
    | none, none, none, some what =>
      let kind ← if what = .boundary ∧ (← peek) = some '\x7b' then boundaryKind backslash
        else pure what
      return .assertion (← spanFrom backslash) kind
    | none, none, none, none =>
      if c = 'p' ∨ c = 'P' then
        skipSpace
        propertyClass backslash (c = 'P')
      else if isEscapable c then return .literal ⟨← spanFrom backslash, c, false⟩
      else failFrom .escapeUnknown backslash

end Pattern

end BenchChart
