import BenchChart.Pattern.Room
import BenchChart.Unicode.Folding

/-!
# What a pattern means

Flags decide what the parts of a pattern match. A class is a predicate on characters. Without the
flag for Unicode, classes are over bytes: they may hold nothing beyond ASCII, because a byte alone
is no character there.
-/

namespace BenchChart

namespace Pattern

structure Options where
  anyCase : Bool
  everyLine : Bool
  dotAll : Bool
  unicode : Bool
  returns : Bool
  deriving DecidableEq, Repr

namespace Options

def initial : Options := ⟨false, false, false, true, false⟩

def set (o : Options) (items : List FlagItem) : Options :=
  let state (flag : Flag) (old : Bool) : Bool := (flagState? flag items).getD old
  { anyCase := state .anyCase o.anyCase
    everyLine := state .everyLine o.everyLine
    dotAll := state .dotAll o.dotAll
    unicode := state .unicode o.unicode
    returns := state .returns o.returns }

end Options

abbrev CharClass := Char → Bool

namespace CharClass

def only (c : Char) : CharClass := fun d => d == c

def complement (p : CharClass) : CharClass := fun c => !p c

def union (p q : CharClass) : CharClass := fun c => p c || q c

def combine : ClassOp → CharClass → CharClass → CharClass
  | .both, p, q => fun c => p c && q c
  | .without, p, q => fun c => p c && !q c
  | .eitherNotBoth, p, q => fun c => p c != q c

def foldAscii (p : CharClass) : CharClass := fun c => p c || p c.toLower || p c.toUpper

def fold (p : CharClass) : CharClass := fun c => (Unicode.variants c).any p

def isAscii (p : CharClass) : Bool :=
  (List.range 0x80).all fun n => !p (Char.ofNat (n + 0x80))

end CharClass

def isAsciiWord (c : Char) : Bool := c.isAlphanum || c == '_'

def isAsciiSpace (c : Char) : Bool := c == ' ' || decide ('\t' ≤ c ∧ c ≤ '\r')

def AsciiName.accepts : AsciiName → CharClass
  | .alnum => Char.isAlphanum
  | .alpha => Char.isAlpha
  | .ascii => fun c => decide (c.toNat < 0x80)
  | .blank => fun c => c == ' ' || c == '\t'
  | .cntrl => fun c => decide (c.toNat < 0x20) || c == '\x7F'
  | .digit => Char.isDigit
  | .graph => fun c => decide ('!' ≤ c ∧ c ≤ '~')
  | .lower => Char.isLower
  | .print => fun c => decide (' ' ≤ c ∧ c ≤ '~')
  | .punct => fun c => decide ('!' ≤ c ∧ c ≤ '~') && !c.isAlphanum
  | .space => isAsciiSpace
  | .upper => Char.isUpper
  | .word => isAsciiWord
  | .xdigit => fun c => (Text.hexDigit? c).isSome

def ShortName.accepts (unicode : Bool) : ShortName → CharClass
  | .digit => if unicode then Unicode.isDecimalDigit else Char.isDigit
  | .space => if unicode then Text.isBlank else isAsciiSpace
  | .word => if unicode then Unicode.isWord else isAsciiWord

abbrev Meaning := Except Error

def refuse {α : Type} (fault : Fault) (span : Span) : Meaning α := .error { fault, span }

/-- A class over bytes, if it holds nothing beyond ASCII; any class over characters. -/
def Options.allowed (o : Options) (span : Span) (p : CharClass) : Meaning CharClass :=
  if o.unicode || p.isAscii then .ok p else refuse .invalidUtf8 span

def Options.folded (o : Options) (p : CharClass) : CharClass :=
  if !o.anyCase then p else if o.unicode then p.fold else p.foldAscii

def negatedIf (negated : Bool) (p : CharClass) : CharClass := if negated then p.complement else p

/-- A class in any case of letters if a flag says so, and then negated. -/
def Options.finish (o : Options) (span : Span) (negated : Bool) (p : CharClass) :
    Meaning CharClass :=
  o.allowed span (negatedIf negated (o.folded p))

def Options.shortClass (o : Options) (span : Span) (negated : Bool) (name : ShortName) :
    Meaning CharClass :=
  o.allowed span (negatedIf negated (name.accepts o.unicode))

def Options.propertyClass (o : Options) (span : Span) (negated : Bool) (query : Query) :
    Meaning CharClass :=
  if !o.unicode then refuse .unicodeNotAllowed span
  else match query.accepts with
    | .error fault => refuse fault span
    | .ok p => o.finish span negated p

/-- The character of a literal, unless it means a byte that is no character. -/
def Options.literal (o : Options) (l : Literal) : Meaning Char :=
  if !o.unicode && l.isByte && decide (0x80 ≤ l.char.toNat) then refuse .invalidUtf8 l.span
  else .ok l.char

def Options.bracketLiteral (o : Options) (l : Literal) : Meaning Char := do
  let c ← o.literal l
  if !o.unicode && decide (0x80 ≤ c.toNat) then refuse .unicodeNotAllowed l.span else return c

mutual

def ClassItem.meaning (o : Options) : ClassItem → Meaning CharClass
  | .empty _ => .ok fun _ => false
  | .literal l => return CharClass.only (← o.bracketLiteral l)
  | .range _ first last => do
    let low ← o.bracketLiteral first
    let high ← o.bracketLiteral last
    return fun c => decide (low ≤ c ∧ c ≤ high)
  | .ascii span negated name => o.finish span negated name.accepts
  | .short span negated name => o.shortClass span negated name
  | .property span negated query => o.propertyClass span negated query
  | .bracketed span negated content => do o.finish span negated (← content.meaning o)
  | .union _ items => unionMeaning o items
  | .combined _ op left right => do
    let p ← left.meaning o
    let q ← right.meaning o
    -- Operands have all cases of their letters before they are combined, not only the result.
    return CharClass.combine op (o.folded p) (o.folded q)

def unionMeaning (o : Options) : List ClassItem → Meaning CharClass
  | [] => .ok fun _ => false
  | item :: rest => do
    let p ← item.meaning o
    let q ← unionMeaning o rest
    return p.union q

end

def Options.wordCheck (o : Options) (holds : Bool → Bool → Bool) : Check :=
  let inWord (c : Option Char) : Bool := c.any (ShortName.accepts o.unicode .word)
  fun before after => holds (inWord before) (inWord after)

/-- The start of a line. With `returns`, a carriage return ends a line unless a line feed does. -/
def Options.lineStart (o : Options) : Check := fun before after =>
  before.isNone || (o.everyLine && (before == some '\n' ||
    (o.returns && before == some '\r' && after != some '\n')))

/-- The end of a line. With `returns`, a carriage return ends a line unless a line feed does. -/
def Options.lineEnd (o : Options) : Check := fun before after =>
  after.isNone || (o.everyLine &&
    if o.returns then after == some '\r' || (after == some '\n' && before != some '\r')
    else after == some '\n')

def Options.check (o : Options) : Assertion → Check
  | .lineStart => o.lineStart
  | .lineEnd => o.lineEnd
  | .textStart => fun before _ => before.isNone
  | .textEnd => fun _ after => after.isNone
  | .boundary => o.wordCheck fun before after => before != after
  | .noBoundary => o.wordCheck fun before after => before == after
  | .wordStart => o.wordCheck fun before after => !before && after
  | .wordEnd => o.wordCheck fun before after => before && !after
  | .wordStartHalf => o.wordCheck fun before _ => !before
  | .wordEndHalf => o.wordCheck fun _ after => !after

def Options.literalStep (o : Options) (c : Char) : Step where
  accepts := o.folded (CharClass.only c)
  room := if o.anyCase then classRoom (2 * memberRoom wayRoom c) else charRoom c

def Atom.meaning (o : Options) : Atom → Meaning Matcher
  | .literal l => return .step (o.literalStep (← o.literal l))
  | .dot span =>
    if !o.unicode then refuse .invalidUtf8 span
    else
      let accepts (c : Char) : Bool := o.dotAll || (c != '\n' && !(o.returns && c == '\r'))
      return .step ⟨accepts, dotRoom⟩
  | .assertion _ what => return .check (o.check what)
  | .short span negated name =>
    return .step ⟨← o.shortClass span negated name, name.room o.unicode negated⟩
  | .property span negated query =>
    return .step ⟨← o.propertyClass span negated query, query.room⟩

def ClassItem.step (o : Options) (span : Span) (negated : Bool) (content : ClassItem) :
    Meaning Matcher := do
  let accepts ← o.finish span negated (← content.meaning o)
  return .step ⟨accepts, content.bracketRoom o.unicode o.anyCase negated⟩

mutual

/-- What a part of a pattern matches, and the options after it. -/
def Node.meaning (o : Options) : Node → Meaning (Matcher × Options)
  | .empty _ => .ok (.empty, o)
  | .flags _ items => .ok (.empty, o.set items)
  | .atom a => return (← a.meaning o, o)
  | .bracketed span negated content => return (← content.step o span negated, o)
  | .repeated _ least most body => do
    let (m, o) ← body.meaning o
    return (.repeated least most m, o)
  | .group _ none body => do
    let (m, _) ← body.meaning o
    return (m.marked, o)
  | .group _ (some items) body => do
    let (m, _) ← body.meaning (o.set items)
    return (m, o)
  | .sequence _ parts => do
    let (ms, o) ← meanings o parts
    return (.ofList ms, o)
  | .alternation _ branches => do
    let (ms, o) ← meanings o branches
    return (.choice ms, o)

def meanings (o : Options) : List Node → Meaning (List Matcher × Options)
  | [] => .ok ([], o)
  | node :: rest => do
    let (m, o) ← node.meaning o
    let (ms, o) ← meanings o rest
    return (m :: ms, o)

end

end Pattern

end BenchChart
