import BenchChart.Disk
import BenchChart.Manual

/-!
# The files of the manual

The page for `man` goes to `man/man1` below a directory, the Markdown document to the directory
itself. Both the directory and the version of the program must be given; the directories are made
before the version is looked at.
-/

namespace BenchChart

namespace Manual

inductive Fault where
  | unset
  | disk (cause : Disk.Fault)
  deriving DecidableEq

def Fault.details : Fault → String
  | .unset => "NotPresent"
  | .disk cause => cause.details

def pageDirectory (directory : Path) : Path :=
  (directory.join (Text.encode "man".toList)).join (Text.encode "man1".toList)

def pagePath (directory : Path) : Path :=
  (pageDirectory directory).join (Text.encode (CommandLine.programName ++ ".1").toList)

def bookPath (directory : Path) : Path := directory.join (Text.encode "manpage.md".toList)

def writeFiles (disk : Disk) (directory : Path) (version : String) : Disk × Option Fault :=
  match disk.write (pagePath directory) (Text.encode (Page.text version).toList) with
  | .error cause => (disk, some (.disk cause))
  | .ok disk =>
    match disk.write (bookPath directory) (Text.encode Markdown.text.toList) with
    | .error cause => (disk, some (.disk cause))
    | .ok disk => (disk, none)

/-- Writes the manual. What is made or written before a fault stays. -/
def write (disk : Disk) (directory version : Option String) : Disk × Option Fault :=
  match directory with
  | none => (disk, some .unset)
  | some text =>
    match disk.makeDirectories (pageDirectory (Path.ofString text)), version with
    | (disk, some cause), _ => (disk, some (.disk cause))
    | (disk, none), none => (disk, some .unset)
    | (disk, none), some version => writeFiles disk (Path.ofString text) version

@[simp] theorem write_none (disk : Disk) (version : Option String) :
    write disk none version = (disk, some .unset) := rfl

end Manual

end BenchChart
