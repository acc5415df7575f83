import BenchChart.CommandLine.Parameter

/-!
# Reading the command line

Arguments are read from left to right. A value is settled, that is checked and kept, only when the
next parameter comes or the arguments end; an argument that has no meaning ends the reading at once,
before what is open is settled. After the argument `--` everything is positional.
-/

namespace BenchChart

namespace CommandLine

structure Request where
  /-- How often more reports are asked for, 255 at most. -/
  verbosity : Nat
  format : Artifact.Format
  directory : Option Path
  deriving DecidableEq

inductive Refusal where
  | help
  | version
  | unknownArgument
  | invalidValue
  | argumentConflict
  | tooManyValues
  deriving DecidableEq, Repr

inductive Pending where
  | format (value : Option (List UInt8))
  | directory (value : List UInt8)
  deriving DecidableEq

structure State where
  verbosity : Nat
  format : Option Artifact.Format
  directory : Option Path
  pending : Option Pending
  /-- Whether everything that follows is positional. -/
  escaped : Bool
  deriving DecidableEq

namespace State

def initial : State := ⟨0, none, none, none, false⟩

def maxVerbosity : Nat := 255

def keepFormat (s : State) (value : List UInt8) : Except Refusal State :=
  if s.format.isSome then .error .argumentConflict
  else
    match (Text.decode? value).bind fun cs =>
      Artifact.Format.ofName? false (String.ofList cs) with
    | some format => .ok { s with format := some format }
    | none => .error .invalidValue

def settle (s : State) : Except Refusal State :=
  match s.pending with
  | none => .ok s
  | some (.format none) => .error .invalidValue
  | some (.format (some value)) => { s with pending := none }.keepFormat value
  | some (.directory value) =>
    if value.isEmpty then .error .invalidValue
    else .ok { s with pending := none, directory := some ⟨value⟩ }

def hasDirectory (s : State) : Bool :=
  s.directory.isSome || match s.pending with
    | some (.directory _) => true
    | _ => false

/-- Whether the next argument is the value of the format unless it looks like a parameter. -/
def awaitsFormat (s : State) : Bool := s.pending == some (.format none)

def give (s : State) (p : Parameter) : Except Refusal State := do
  let s ← s.settle
  match p with
  | .verbose => return { s with verbosity := min (s.verbosity + 1) maxVerbosity }
  | .help => throw .help
  | .version => throw .version
  | _ => return s

def giveFormat (s : State) (value : Option (List UInt8)) : Except Refusal State := do
  let s ← s.settle
  match value with
  | some value => s.keepFormat value
  | none => return { s with pending := some (.format none) }

def givePositional (s : State) (value : List UInt8) : Except Refusal State :=
  -- A second directory is refused before what is pending is settled.
  if s.hasDirectory then .error .unknownArgument
  else do return { (← s.settle) with pending := some (.directory value) }

def equalsSign : UInt8 := 0x3D

def dash : UInt8 := 0x2D

/-- Parameters are given by their letters, after one dash. What follows the letter of the format is
its value. -/
def giveLetters (s : State) : List UInt8 → Except Refusal State
  | [] => .ok s
  | b :: rest =>
    match Parameter.ofLetter? b with
    | none => .error .unknownArgument
    | some .format =>
      match rest with
      | [] => s.giveFormat none
      -- An equals sign may stand before the value.
      | c :: value => s.giveFormat (some (if c = equalsSign then value else c :: value))
    | some p => do (← s.give p).giveLetters rest

/-- A parameter is given by its name, after two dashes, perhaps with a value. -/
def giveWord (s : State) (bytes : List UInt8) : Except Refusal State :=
  let name := bytes.takeWhile (· != equalsSign)
  let value := (bytes.dropWhile (· != equalsSign)).tail?
  match Parameter.ofWord? name, value with
  | none, _ => .error .unknownArgument
  | some .format, value => s.giveFormat value
  | some _, some _ => .error .tooManyValues
  | some p, none => s.give p

def step (s : State) (argument : List UInt8) : Except Refusal State :=
  if s.escaped then s.givePositional argument
  else if argument = [dash, dash] then .ok { s with escaped := true }
  else match argument with
    | 0x2D :: 0x2D :: word => s.giveWord word
    | 0x2D :: b :: letters => s.giveLetters (b :: letters)
    | _ =>
      if s.awaitsFormat then .ok { s with pending := some (.format (some argument)) }
      else s.givePositional argument

def finish (s : State) : Except Refusal Request := do
  let s ← s.settle
  return ⟨s.verbosity, s.format.getD .default, s.directory⟩

end State

def parse (arguments : List (List UInt8)) : Except Refusal Request := do
  (← arguments.foldlM State.step State.initial).finish

@[simp] theorem parse_nil : parse [] = .ok ⟨0, .png, none⟩ := rfl

end CommandLine

end BenchChart
