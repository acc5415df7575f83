import BenchChart.Pattern.Fault

/-!
# Patterns as trees

What a pattern says, part by part, before flags decide what its parts mean. Each part knows the span
that it is written in.
-/

namespace BenchChart

namespace Pattern

inductive Flag where
  /-- `i`: letters match in any case. -/
  | anyCase
  /-- `m`: the ends of lines match where the ends of the text do. -/
  | everyLine
  /-- `s`: a dot matches the end of a line. -/
  | dotAll
  /-- `U`: repetitions prefer few copies. -/
  | lazy
  /-- `u`: classes hold characters beyond ASCII. -/
  | unicode
  /-- `R`: a carriage return ends a line too. -/
  | returns
  /-- `x`: blanks and comments mean nothing. -/
  | spaced
  deriving DecidableEq, Repr

structure FlagItem where
  span : Span
  /-- The flag; `none` for the sign. -/
  flag : Option Flag
  deriving DecidableEq, Repr

inductive Assertion where
  | lineStart
  | lineEnd
  | textStart
  | textEnd
  | boundary
  | noBoundary
  | wordStart
  | wordEnd
  | wordStartHalf
  | wordEndHalf
  deriving DecidableEq, Repr

inductive ShortName where
  | digit
  | space
  | word
  deriving DecidableEq, Repr

inductive AsciiName where
  | alnum
  | alpha
  | ascii
  | blank
  | cntrl
  | digit
  | graph
  | lower
  | print
  | punct
  | space
  | upper
  | word
  | xdigit
  deriving DecidableEq, Repr

inductive Query where
  | named (name : String)
  | valued (name value : String)
  deriving DecidableEq, Repr

structure Literal where
  span : Span
  char : Char
  /-- Whether it is written as two hexadecimal digits, which may mean a byte. -/
  isByte : Bool
  deriving DecidableEq, Repr

inductive Atom where
  | literal (l : Literal)
  | dot (span : Span)
  | assertion (span : Span) (what : Assertion)
  | short (span : Span) (negated : Bool) (name : ShortName)
  | property (span : Span) (negated : Bool) (query : Query)
  deriving DecidableEq, Repr

inductive ClassOp where
  | both
  | without
  | eitherNotBoth
  deriving DecidableEq, Repr

inductive ClassItem where
  | empty (span : Span)
  | literal (l : Literal)
  | range (span : Span) (first last : Literal)
  | ascii (span : Span) (negated : Bool) (name : AsciiName)
  | short (span : Span) (negated : Bool) (name : ShortName)
  | property (span : Span) (negated : Bool) (query : Query)
  | bracketed (span : Span) (negated : Bool) (content : ClassItem)
  | union (span : Span) (items : List ClassItem)
  | combined (span : Span) (op : ClassOp) (left right : ClassItem)

inductive Node where
  | empty (span : Span)
  | flags (span : Span) (items : List FlagItem)
  | atom (a : Atom)
  | bracketed (span : Span) (negated : Bool) (content : ClassItem)
  /-- At least `least` copies, and at most `most` if there is a bound. -/
  | repeated (span : Span) (least : Nat) (most : Option Nat) (body : Node)
  /-- A group with its flags, or without any if the group has a number or a name. -/
  | group (span : Span) (flags : Option (List FlagItem)) (body : Node)
  | sequence (span : Span) (parts : List Node)
  | alternation (span : Span) (branches : List Node)

def Atom.span : Atom → Span
  | .literal l => l.span
  | .dot span => span
  | .assertion span _ => span
  | .short span _ _ => span
  | .property span _ _ => span

def ClassItem.span : ClassItem → Span
  | .empty span => span
  | .literal l => l.span
  | .range span _ _ => span
  | .ascii span _ _ => span
  | .short span _ _ => span
  | .property span _ _ => span
  | .bracketed span _ _ => span
  | .union span _ => span
  | .combined span _ _ _ => span

def Node.span : Node → Span
  | .empty span => span
  | .flags span _ => span
  | .atom a => a.span
  | .bracketed span _ _ => span
  | .repeated span _ _ _ => span
  | .group span _ _ => span
  | .sequence span _ => span
  | .alternation span _ => span

/-- What a list of flags says about a flag: `none` if nothing. -/
def flagState? (flag : Flag) (items : List FlagItem) : Option Bool :=
  let before := items.takeWhile (·.flag != some flag)
  if before.length = items.length then none else some !(before.any (·.flag == none))

def enter (depth : Nat) (span : Span) : Except Error Nat :=
  if maxDepth ≤ depth then .error { fault := .tooDeep, span := span } else .ok (depth + 1)

mutual

def ClassItem.checkDepth (depth : Nat) : ClassItem → Except Error Unit
  | .bracketed span _ content => do content.checkDepth (← enter depth span)
  | .union span items => do checkItems (← enter depth span) items
  | .combined span _ left right => do
    let depth ← enter depth span
    left.checkDepth depth
    right.checkDepth depth
  | _ => .ok ()

def checkItems (depth : Nat) : List ClassItem → Except Error Unit
  | [] => .ok ()
  | item :: rest => do
    item.checkDepth depth
    checkItems depth rest

end

mutual

def Node.checkDepth (depth : Nat) : Node → Except Error Unit
  | .bracketed span _ content => do content.checkDepth (← enter depth span)
  | .repeated span _ _ body => do body.checkDepth (← enter depth span)
  | .group span _ body => do body.checkDepth (← enter depth span)
  | .sequence span parts => do checkNodes (← enter depth span) parts
  | .alternation span branches => do checkNodes (← enter depth span) branches
  | _ => .ok ()

def checkNodes (depth : Nat) : List Node → Except Error Unit
  | [] => .ok ()
  | node :: rest => do
    node.checkDepth depth
    checkNodes depth rest

end

end Pattern

end BenchChart
