import BenchChart.Text.Hexadecimal
import BenchChart.Toml.Value

/-!
# TOML blanks, strings and keys

The scanners return what they read and the text after it. They follow the text character by
character; where one construct spans several characters, a count says how many of the next ones
belong to it already.
-/

namespace BenchChart

namespace Toml

abbrev Scanned (α : Type) := Except Fault (α × List Char)

def addChar (c : Char) (scanned : Scanned (List Char)) : Scanned (List Char) :=
  scanned.map fun (cs, rest) => (c :: cs, rest)

def isGap (c : Char) : Bool := c == ' ' || c == '\t'

def isControl (c : Char) : Bool := c != '\t' && (decide (c.toNat < 0x20) || c.toNat == 0x7F)

def skipGap (cs : List Char) : List Char := cs.dropWhile isGap

/-- The text without the blanks, line ends and comments at its start. The flag is set inside a
comment. A carriage return must be followed by a line feed. -/
def skipTrivia : Bool → List Char → Except Fault (List Char)
  | _, [] => .ok []
  | inComment, '\r' :: cs =>
    if cs.head? = some '\n' then skipTrivia inComment cs else .error .unexpected
  | _, '\n' :: cs => skipTrivia false cs
  | true, c :: cs => if isControl c then .error .unexpected else skipTrivia true cs
  | false, c :: cs =>
    if isGap c then skipTrivia false cs
    else if c = '#' then skipTrivia true cs
    else .ok (c :: cs)

/-- The text after the end of a line on which only blanks and a comment may stand. -/
def endOfLine : Bool → List Char → Except Fault (List Char)
  | _, [] => .ok []
  | inComment, '\r' :: cs =>
    if cs.head? = some '\n' then endOfLine inComment cs else .error .unexpected
  | _, '\n' :: cs => .ok cs
  | true, c :: cs => if isControl c then .error .unexpected else endOfLine true cs
  | false, c :: cs =>
    if isGap c then endOfLine false cs
    else if c = '#' then endOfLine true cs
    else .error .unexpected

def hexChar? (count : Nat) (cs : List Char) : Option Char := do
  if cs.length < count then failure
  let n ← Text.hexNumber? (cs.take count)
  if n.isValidChar then return Char.ofNat n else failure

/-- The character that an escape sequence stands for and how many characters it has after the
backslash. -/
def escape? : List Char → Option (Char × Nat)
  | 'b' :: _ => some ('\x08', 1)
  | 't' :: _ => some ('\t', 1)
  | 'n' :: _ => some ('\n', 1)
  | 'f' :: _ => some ('\x0c', 1)
  | 'r' :: _ => some ('\r', 1)
  | 'e' :: _ => some ('\x1b', 1)
  | '"' :: _ => some ('"', 1)
  | '\\' :: _ => some ('\\', 1)
  | 'x' :: cs => (hexChar? 2 cs).map (·, 3)
  | 'u' :: cs => (hexChar? 4 cs).map (·, 5)
  | 'U' :: cs => (hexChar? 8 cs).map (·, 9)
  | _ => none

def basicString : Nat → List Char → Scanned (List Char)
  | skip + 1, _ :: cs => basicString skip cs
  | _, [] => .error .unclosedString
  | 0, '"' :: cs => .ok ([], cs)
  | 0, '\\' :: cs =>
    match escape? cs with
    | some (c, count) => addChar c (basicString count cs)
    | none => .error .badEscape
  | 0, c :: cs => if isControl c then .error .unclosedString else addChar c (basicString 0 cs)

def literalString : List Char → Scanned (List Char)
  | [] => .error .unclosedString
  | '\'' :: cs => .ok ([], cs)
  | c :: cs => if isControl c then .error .unclosedString else addChar c (literalString cs)

/-- The quotes before the closing ones of a string on several lines: two at most are its own. -/
def closingQuotes (quote : Char) (cs : List Char) : List Char × List Char :=
  let own := (cs.takeWhile (· == quote)).take 2
  (own, cs.drop own.length)

def endsLine (cs : List Char) : Bool :=
  match skipGap cs with
  | '\n' :: _ => true
  | '\r' :: '\n' :: _ => true
  | _ => false

/-- A string with escapes on several lines, after its opening quotes. The flag is set after a
backslash at the end of a line: the blanks up to the next character are left out. -/
def basicLines : Bool → Nat → List Char → Scanned (List Char)
  | joining, skip + 1, _ :: cs => basicLines joining skip cs
  | _, _, [] => .error .unclosedString
  | _, 0, '"' :: '"' :: '"' :: cs => .ok (closingQuotes '"' cs)
  | _, 0, '\\' :: cs =>
    if endsLine cs then basicLines true 0 cs
    else match escape? cs with
      | some (c, count) => addChar c (basicLines false count cs)
      | none => .error .badEscape
  | joining, 0, c :: cs =>
    if c = '\r' ∧ cs.head? ≠ some '\n' then .error .unexpected
    else if joining ∧ (isGap c ∨ c = '\n' ∨ c = '\r') then basicLines true 0 cs
    else if isControl c ∧ c ≠ '\n' ∧ c ≠ '\r' then .error .unclosedString
    else addChar c (basicLines false 0 cs)

def literalLines : List Char → Scanned (List Char)
  | [] => .error .unclosedString
  | '\'' :: '\'' :: '\'' :: cs => .ok (closingQuotes '\'' cs)
  | c :: cs =>
    if c = '\r' ∧ cs.head? ≠ some '\n' then .error .unexpected
    else if isControl c ∧ c ≠ '\n' ∧ c ≠ '\r' then .error .unclosedString
    else addChar c (literalLines cs)

def skipFirstLineEnd : List Char → List Char
  | '\n' :: cs => cs
  | '\r' :: '\n' :: cs => cs
  | cs => cs

def quoted? : List Char → Option (Scanned (List Char))
  | '"' :: '"' :: '"' :: cs => some (basicLines false 0 (skipFirstLineEnd cs))
  | '"' :: cs => some (basicString 0 cs)
  | '\'' :: '\'' :: '\'' :: cs => some (literalLines (skipFirstLineEnd cs))
  | '\'' :: cs => some (literalString cs)
  | _ => none

def isBare (c : Char) : Bool := c.isAlphanum || c == '_' || c == '-'

def key (cs : List Char) : Scanned String :=
  match cs with
  | '"' :: rest => (basicString 0 rest).map fun (s, after) => (String.ofList s, after)
  | '\'' :: rest => (literalString rest).map fun (s, after) => (String.ofList s, after)
  | _ =>
    let name := cs.takeWhile isBare
    if name.isEmpty then .error .unexpected
    else .ok (String.ofList name, cs.dropWhile isBare)

/-- Keys joined by dots, with the blanks around them; `fuel` bounds their number. -/
def keys : Nat → List Char → Except Fault (List String × List Char)
  | 0, _ => .error .unexpected
  | fuel + 1, cs => do
    let (name, rest) ← key (skipGap cs)
    match skipGap rest with
    | '.' :: after =>
      let (names, final) ← keys fuel after
      return (name :: names, final)
    | after => return ([name], after)

def maxKeys : Nat := 80

def keyPath (fuel : Nat) (cs : List Char) : Except Fault (List String × List Char) := do
  let (names, rest) ← keys fuel cs
  if maxKeys < names.length then throw .tooDeep
  return (names, rest)

end Toml

end BenchChart
