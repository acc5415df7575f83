/-!
# What can be wrong with a file operation
-/

namespace BenchChart

namespace Disk

inductive Fault where
  | notFound
  | alreadyExists
  | notDirectory
  | isDirectory
  | nameTooLong
  | zeroInPath
  | notText
  deriving DecidableEq, Repr

namespace Fault

def systemError? : Fault → Option (Nat × String)
  | .notFound => some (2, "No such file or directory")
  | .alreadyExists => some (17, "File exists")
  | .notDirectory => some (20, "Not a directory")
  | .isDirectory => some (21, "Is a directory")
  | .nameTooLong => some (36, "File name too long")
  | .zeroInPath => none
  | .notText => none

def kind : Fault → String
  | .notFound => "NotFound"
  | .alreadyExists => "AlreadyExists"
  | .notDirectory => "NotADirectory"
  | .isDirectory => "IsADirectory"
  | .nameTooLong => "InvalidFilename"
  | .zeroInPath => "InvalidInput"
  | .notText => "InvalidData"

/-- What is wrong, for a fault that is found before the file system is asked. -/
def note : Fault → String
  | .zeroInPath => "file name contained an unexpected NUL byte"
  | _ => "stream did not contain valid UTF-8"

def message (fault : Fault) : String :=
  match fault.systemError? with
  | some (code, text) => text ++ " (os error " ++ toString code ++ ")"
  | none => fault.note

def details (fault : Fault) : String :=
  match fault.systemError? with
  | some (code, text) =>
    "Os \x7b code: " ++ toString code ++ ", kind: " ++ fault.kind ++ ", message: \"" ++ text ++
      "\" \x7d"
  | none => "Error \x7b kind: " ++ fault.kind ++ ", message: \"" ++ fault.note ++ "\" \x7d"

end Fault

end Disk

end BenchChart
