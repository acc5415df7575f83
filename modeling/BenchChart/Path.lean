import BenchChart.Text.Split
import BenchChart.Text.Utf8

/-!
# Paths

A path is a string of bytes in which slashes separate the parts. Empty parts mean nothing, nor does
a part that is a single dot, unless the path starts with it. The last part that means something
names the file; the path to it, without slashes and dots at its end, is the parent.
-/

namespace BenchChart

structure Path where
  bytes : List UInt8
  deriving DecidableEq

namespace Path

def slash : UInt8 := 0x2F

def dot : List UInt8 := [0x2E]

def dotDot : List UInt8 := [0x2E, 0x2E]

def ofChars (cs : List Char) : Path := ⟨Text.encode cs⟩

def ofString (s : String) : Path := ofChars s.toList

/-- The path as text, with replacement characters for what is not UTF-8. -/
def display (p : Path) : String := String.ofList (Text.decodeLossy p.bytes)

def isAbsolute (p : Path) : Bool := p.bytes.head? == some slash

/-- The parts between the slashes, empty ones included. -/
def split (bytes : List UInt8) : List (List UInt8) := Text.split slash bytes

def glue (parts : List (List UInt8)) : List UInt8 := [slash].intercalate parts

/-- Whether a part that does not stand first means nothing. -/
def isIdle (part : List UInt8) : Bool := part.isEmpty || part == dot

/-- The parts of a path up to the last one that means something, in reverse. The first part of a
relative path means nothing only if it is empty. -/
def dropIdle : List (List UInt8) → List (List UInt8)
  | [] => []
  | [first] => if first.isEmpty then [] else [first]
  | part :: before => if isIdle part then dropIdle before else part :: before

/-- The last part that means something and the parts before it, both up to the last slash. For an
absolute path the empty part before the first slash is left out. -/
def last? (p : Path) : Option (List UInt8 × List (List UInt8)) :=
  let parts := (split p.bytes).reverse
  match dropIdle parts with
  | [] => none
  | part :: before => some (part, before)

/-- The name of the file or directory that the path leads to, unless it leads upwards or stays. -/
def fileName? (p : Path) : Option (List UInt8) :=
  match p.last? with
  | none => none
  | some (part, _) => if part = dot ∨ part = dotDot then none else some part

def parent? (p : Path) : Option Path :=
  match p.last? with
  | none => none
  | some (_, before) =>
    let kept := glue (dropIdle before).reverse
    some ⟨if p.isAbsolute && kept.isEmpty then [slash] else kept⟩

/-- The paths to the directories that hold one another up to a path, which is the first; `fuel`
bounds their number. Left out are the root and the empty path. -/
def ancestorsUpTo : Nat → Path → List Path
  | 0, _ => []
  | fuel + 1, p =>
    match p.parent? with
    | none => []
    | some above => if p.bytes.isEmpty then [] else p :: ancestorsUpTo fuel above

def ancestors (p : Path) : List Path := ancestorsUpTo (p.bytes.length + 1) p

/-- The path of a name in a directory. An absolute name stands for itself. -/
def join (p : Path) (name : List UInt8) : Path :=
  if name.head? = some slash then ⟨name⟩
  else if p.bytes.isEmpty || p.bytes.getLast? == some slash then ⟨p.bytes ++ name⟩
  else ⟨p.bytes ++ slash :: name⟩

end Path

end BenchChart
