import BenchChart.Decimal.Numeral
import BenchChart.Entries
import BenchChart.Toml.Value

/-!
# Settings as a tree

The configuration is a tree. Each document is laid over the tree of the documents before it: tables
are merged key by key, at every depth, and anything else replaces what stood there. A key at the top
of a document may be a way through the tree, such as `input.directory` or `chart.width`, or
`levels[2]` for an element of an array; blanks may stand around the number.
-/

namespace BenchChart

namespace Config

inductive Setting where
  | unset
  | text (s : String)
  | integer (n : Int)
  | real (x : Binary64)
  | boolean (b : Bool)
  | array (items : List Setting)
  | table (entries : List (String × Setting))

inductive Step where
  | key (name : String)
  /-- An element of an array, counted from its end if the number is negative. -/
  | index (position : Int)
  deriving DecidableEq, Repr

namespace Step

def isNameChar (c : Char) : Bool := c.isAlphanum || c == '_' || c == '-'

def indexBound : Nat := 0x8000000000000000

def isGap (c : Char) : Bool := c == ' ' || c == '\t'

def index? (cs : List Char) : Option (Step × List Char) :=
  let (negative, body) := match cs.dropWhile isGap with
    | '-' :: rest => (true, rest)
    | rest => (false, rest)
  match Numeral.digits? (body.takeWhile Char.isDigit),
      (body.dropWhile Char.isDigit).dropWhile isGap with
  | some n, ']' :: rest =>
    if n < indexBound then some (.index (if negative then -n else n), rest) else none
  | _, _ => none

def name? (cs : List Char) : Option (Step × List Char) :=
  let name := cs.takeWhile isNameChar
  if name.isEmpty then none else some (.key (String.ofList name), cs.dropWhile isNameChar)

/-- The steps after the first one; `fuel` bounds their number. -/
def more? : Nat → List Char → Option (List Step)
  | _, [] => some []
  | 0, _ => none
  | fuel + 1, '.' :: cs => do
    let (step, rest) ← name? cs
    return step :: (← more? fuel rest)
  | fuel + 1, '[' :: cs => do
    let (step, rest) ← index? cs
    return step :: (← more? fuel rest)
  | _, _ => none

def way? (cs : List Char) : Option (List Step) := do
  let (step, rest) ← name? cs
  return step :: (← more? rest.length rest)

/-- The way that a key at the top of a document stands for: a key that is no way is a single
step. -/
def ofKey (key : String) : List Step := (way? key.toList).getD [.key key]

end Step

namespace Setting

def entries : Setting → List (String × Setting)
  | .table es => es
  | _ => []

def items : Setting → List Setting
  | .array xs => xs
  | _ => []

def get? (s : Setting) (k : String) : Option Setting := s.entries.lookup k

def find? (s : Setting) : List String → Option Setting
  | [] => some s
  | k :: ks => (s.get? k).bind (find? · ks)

mutual

def overlay (base : Setting) : Setting → Setting
  | .table es => .table (overlayEntries base.entries es)
  | .unset => .unset
  | .text s => .text s
  | .integer n => .integer n
  | .real x => .real x
  | .boolean b => .boolean b
  | .array xs => .array xs

def overlayEntries (base : List (String × Setting)) :
    List (String × Setting) → List (String × Setting)
  | [] => base
  | (k, s) :: rest =>
    overlayEntries (Entries.put k (overlay ((base.lookup k).getD .unset) s) base) rest

end

/-- An array with one element changed. It grows by unset elements, at the end or, for a position
before its start, at the front. -/
def alterItem (change : Setting → Setting) (position : Int) (xs : List Setting) : List Setting :=
  match position with
  | .ofNat i => (xs ++ List.replicate (i + 1 - xs.length) Setting.unset).modify i change
  | .negSucc i =>
    (List.replicate (i + 1 - xs.length) Setting.unset ++ xs).modify (xs.length - (i + 1)) change

/-- Changes what stands at the end of a way, making what is missing on it. -/
def alter (change : Setting → Setting) : List Step → Setting → Setting
  | [], s => change s
  | .key k :: rest, s =>
    .table (Entries.put k (alter change rest ((s.get? k).getD .unset)) s.entries)
  | .index i :: rest, s => .array (alterItem (alter change rest) i s.items)

mutual

/-- A value of a document as a tree. A date or time is a text. -/
def ofToml : Toml.Value → Setting
  | .text s => .text s
  | .integer n => .integer n
  | .real x => .real x
  | .boolean b => .boolean b
  | .moment s => .text s
  | .array xs => .array (ofTomlItems xs)
  | .table es => .table (ofTomlEntries es)

def ofTomlItems : List Toml.Value → List Setting
  | [] => []
  | x :: xs => ofToml x :: ofTomlItems xs

def ofTomlEntries : List (String × Toml.Value) → List (String × Setting)
  | [] => []
  | (k, v) :: rest => (k, ofToml v) :: ofTomlEntries rest

end

def addEntry (tree : Setting) (entry : String × Toml.Value) : Setting :=
  tree.alter (overlay · (ofToml entry.2)) (Step.ofKey entry.1)

def addDocument (tree : Setting) (document : List (String × Toml.Value)) : Setting :=
  document.foldl addEntry tree

/-- The tree of documents, of which later ones override earlier ones. -/
def ofDocuments (documents : List (List (String × Toml.Value))) : Setting :=
  documents.foldl addDocument (.table [])

@[simp] theorem ofDocuments_nil : ofDocuments [] = .table [] := rfl

@[simp] theorem addDocument_nil (tree : Setting) : tree.addDocument [] = tree := rfl

@[simp] theorem overlayEntries_nil (base : List (String × Setting)) :
    overlayEntries base [] = base := by simp [overlayEntries]

theorem overlayEntries_cons (base : List (String × Setting)) (k : String) (s : Setting)
    (rest : List (String × Setting)) :
    overlayEntries base ((k, s) :: rest) =
      overlayEntries (Entries.put k (overlay ((base.lookup k).getD .unset) s) base) rest := by
  simp [overlayEntries]

end Setting

end Config

end BenchChart
