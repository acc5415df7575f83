/-!
# UTF-8

File names and file contents are bytes. `chunks` reads bytes as UTF-8 and marks what cannot be read:
a sequence that breaks off is one malformed chunk up to the byte that breaks it. Bytes are text if
no chunk is malformed; for display each malformed chunk becomes one replacement character.
-/

namespace BenchChart

namespace Text

def encode (cs : List Char) : List UInt8 := cs.flatMap String.utf8EncodeChar

inductive Chunk where
  | char (c : Char)
  | malformed (bytes : List UInt8)
  deriving DecidableEq

def isContinuation (b : UInt8) : Bool := decide (0x80 ≤ b ∧ b ≤ 0xBF)

/-- Whether a byte can follow the first byte of a longer character: the ranges leave out overlong
forms, surrogates and what is past the last code point. -/
def isSecond (first b : UInt8) : Bool :=
  if first = 0xE0 then decide (0xA0 ≤ b ∧ b ≤ 0xBF)
  else if first = 0xED then decide (0x80 ≤ b ∧ b ≤ 0x9F)
  else if first = 0xF0 then decide (0x90 ≤ b ∧ b ≤ 0xBF)
  else if first = 0xF4 then decide (0x80 ≤ b ∧ b ≤ 0x8F)
  else isContinuation b

/-- How many bytes follow a first byte, if a character can start with it. -/
def continuations? (first : UInt8) : Option Nat :=
  if first < 0x80 then some 0
  else if first < 0xC2 then none
  else if first < 0xE0 then some 1
  else if first < 0xF0 then some 2
  else if first < 0xF5 then some 3
  else none

def continuationRun : Nat → List UInt8 → List UInt8
  | 0, _ => []
  | _, [] => []
  | count + 1, b :: bs => if isContinuation b then b :: continuationRun count bs else []

/-- The bytes after the first one that belong to its character, or would if it were complete. -/
def tailRun (first : UInt8) (count : Nat) : List UInt8 → List UInt8
  | [] => []
  | b :: bs =>
    if count = 0 then []
    else if isSecond first b then b :: continuationRun (count - 1) bs
    else []

def codePoint (first : UInt8) (tail : List UInt8) : Nat :=
  let lead := match tail.length with
    | 0 => first.toNat
    | 1 => first.toNat % 0x20
    | 2 => first.toNat % 0x10
    | _ => first.toNat % 0x08
  tail.foldl (fun n b => n * 0x40 + b.toNat % 0x40) lead

/-- The chunk that starts with a byte, and how many of the bytes after it belong to it. -/
def firstChunk (first : UInt8) (rest : List UInt8) : Chunk × Nat :=
  match continuations? first with
  | none => (.malformed [first], 0)
  | some count =>
    let tail := tailRun first count rest
    let chunk :=
      if tail.length = count then .char (Char.ofNat (codePoint first tail))
      else .malformed (first :: tail)
    (chunk, tail.length)

/-- The chunks of bytes after the first `skip` of them, which belong to the chunk before. -/
def chunksAfter : Nat → List UInt8 → List Chunk
  | _, [] => []
  | skip + 1, _ :: bs => chunksAfter skip bs
  | 0, b :: bs => (firstChunk b bs).1 :: chunksAfter (firstChunk b bs).2 bs

def chunks (bytes : List UInt8) : List Chunk := chunksAfter 0 bytes

def Chunk.char? : Chunk → Option Char
  | .char c => some c
  | .malformed _ => none

def decode? (bytes : List UInt8) : Option (List Char) := (chunks bytes).mapM Chunk.char?

/-- The text for display, with a replacement character for each malformed part. -/
def decodeLossy (bytes : List UInt8) : List Char :=
  (chunks bytes).map fun chunk => chunk.char?.getD '\uFFFD'

@[simp] theorem encode_nil : encode [] = [] := rfl

theorem encode_cons (c : Char) (cs : List Char) :
    encode (c :: cs) = String.utf8EncodeChar c ++ encode cs := rfl

theorem encode_append (cs ds : List Char) : encode (cs ++ ds) = encode cs ++ encode ds :=
  List.flatMap_append

@[simp] theorem chunks_nil : chunks [] = [] := rfl

@[simp] theorem decode?_nil : decode? [] = some [] := rfl

end Text

end BenchChart
