import BenchChart.Disk.Fault
import BenchChart.Entries
import BenchChart.Path

/-!
# Files and directories

A disk says which files and directories there are, and which directory is the current one. A
location is the list of names that lead to an entry from the root, innermost first, so that the
directory that holds an entry is the tail of its location. A path is walked part by part from the
root or from the current directory; there are no links.

`node?` is the view of a disk: what is at a location. Operations say in terms of it what they read
and what they change.
-/

namespace BenchChart

abbrev Name := List UInt8

/-- The names that lead to an entry, innermost first; the root has none. -/
abbrev Location := List Name

inductive Node where
  | file (content : List UInt8)
  | directory
  deriving DecidableEq

structure Disk where
  /-- What is at each location but the root. A directory lists its entries in this order. -/
  entries : List (Location × Node)
  /-- The directory that relative paths start from. -/
  current : Location
  deriving DecidableEq

namespace Disk

def maxNameLength : Nat := 255

def maxPathLength : Nat := 4095

/-- What is at a location, if anything. The root is a directory. -/
def node? (disk : Disk) (location : Location) : Option Node :=
  if location = [] then some .directory else disk.entries.lookup location

def put (disk : Disk) (location : Location) (node : Node) : Disk :=
  { disk with entries := Entries.put location node disk.entries }

def erase (disk : Disk) (location : Location) : Disk :=
  { disk with entries := disk.entries.filter fun entry => entry.1 != location }

def names (disk : Disk) (location : Location) : List Name :=
  disk.entries.filterMap fun entry =>
    match entry.1 with
    | [] => none
    | name :: parent => if parent = location then some name else none

def pathOf (location : Location) : Path :=
  if location = [] then ⟨[Path.slash]⟩
  else ⟨location.reverse.flatMap fun name => Path.slash :: name⟩

/-- Walks the parts of a path. Whatever a part means, it is looked up in a directory. -/
def walk (disk : Disk) (start : Location) : List Name → Except Fault Location
  | [] => .ok start
  | part :: rest =>
    match disk.node? start with
    | none => .error .notFound
    | some (.file _) => .error .notDirectory
    | some .directory =>
      if Path.isIdle part then walk disk start rest
      else if part = Path.dotDot then walk disk start.tail rest
      else if maxNameLength < part.length then .error .nameTooLong
      else walk disk (part :: start) rest

/-- Refuses a path that leads nowhere on any disk. -/
def check (path : Path) : Except Fault Unit :=
  if path.bytes.isEmpty then .error .notFound
  else if path.bytes.contains 0 then .error .zeroInPath
  else if maxPathLength < path.bytes.length then .error .nameTooLong
  else .ok ()

def start (disk : Disk) (path : Path) : Location := if path.isAbsolute then [] else disk.current

/-- Where a path leads; whether anything is there is left open. -/
def locate (disk : Disk) (path : Path) : Except Fault Location := do
  check path
  disk.walk (disk.start path) (Path.split path.bytes)

/-- Where a path leads that an entry shall be made at. Slashes at its end are passed over. -/
def locateNew (disk : Disk) (path : Path) : Except Fault Location := do
  check path
  disk.walk (disk.start path) ((Path.split path.bytes).reverse.dropWhile List.isEmpty).reverse

def read (disk : Disk) (path : Path) : Except Fault (List UInt8) := do
  match disk.node? (← disk.locate path) with
  | none => .error .notFound
  | some .directory => .error .isDirectory
  | some (.file content) => .ok content

def readText (disk : Disk) (path : Path) : Except Fault (List Char) := do
  match Text.decode? (← disk.read path) with
  | none => .error .notText
  | some text => .ok text

def isFile (disk : Disk) (path : Path) : Bool :=
  match disk.read path with
  | .ok _ => true
  | .error _ => false

def list (disk : Disk) (path : Path) : Except Fault (List Name) := do
  let location ← disk.locate path
  match disk.node? location with
  | none => .error .notFound
  | some (.file _) => .error .notDirectory
  | some .directory => .ok (disk.names location)

def write (disk : Disk) (path : Path) (content : List UInt8) : Except Fault Disk := do
  let location ← disk.locateNew path
  -- Only a directory can have a slash after its name.
  if path.bytes.getLast? = some Path.slash then .error .isDirectory
  else match disk.node? location with
    | some .directory => .error .isDirectory
    | _ => .ok (disk.put location (.file content))

def isDirectory (disk : Disk) (path : Path) : Bool :=
  match disk.list path with
  | .ok _ => true
  | .error _ => false

def makeDirectory (disk : Disk) (path : Path) : Except Fault Disk := do
  let location ← disk.locateNew path
  match disk.node? location with
  | some _ => .error .alreadyExists
  | none => .ok (disk.put location .directory)

/-- Makes the first directory on a way upwards that can be made, unless one is met that is there
already. Returns the paths below it, `missing` among them, with the outermost first. -/
def makeOutermost (disk : Disk) (missing : List Path) : List Path → Except Fault (Disk × List Path)
  | [] => .ok (disk, missing)
  | path :: above =>
    match disk.makeDirectory path with
    | .ok made => .ok (made, missing)
    | .error .notFound => makeOutermost disk (path :: missing) above
    | .error fault =>
      if fault = .alreadyExists ∧ disk.isDirectory path then .ok (disk, missing) else .error fault

/-- Makes directories one after the other, except those that are there already. Those made before
a fault stay. -/
def makeEach (disk : Disk) : List Path → Disk × Option Fault
  | [] => (disk, none)
  | path :: below =>
    match disk.makeDirectory path with
    | .ok made => makeEach made below
    | .error fault =>
      if fault = .alreadyExists ∧ disk.isDirectory path then makeEach disk below
      else (disk, some fault)

/-- Makes the directory that a path leads to, and those above it that are missing. A missing
directory that the path leaves again by two dots is made as well. -/
def makeDirectories (disk : Disk) (path : Path) : Disk × Option Fault :=
  match disk.makeOutermost [] path.ancestors with
  | .error fault => (disk, some fault)
  | .ok (made, missing) => made.makeEach missing

@[simp] theorem node?_root (disk : Disk) : disk.node? [] = some .directory := by simp [node?]

theorem node?_put_self (disk : Disk) {location : Location} (h : location ≠ []) (node : Node) :
    (disk.put location node).node? location = some node := by
  simp [node?, put, h, Entries.lookup_put_self]

theorem node?_put_of_ne (disk : Disk) {location other : Location} (h : other ≠ location)
    (node : Node) : (disk.put location node).node? other = disk.node? other := by
  simp [node?, put, Entries.lookup_put_of_ne h]

end Disk

end BenchChart
