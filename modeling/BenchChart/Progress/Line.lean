import BenchChart.Decimal.Numeral
import BenchChart.Progress.Layout
import BenchChart.Rate
import BenchChart.Text.Blank

/-!
# Progress lines

A line is a progress line if it starts with three dots after its blanks; other stages of the
benchmark mark their lines otherwise. A progress line must give a sample. If it does not, the fault
tells why: the first marker that does not occur anywhere, or that the markers are not laid out in
their order, or the first field whose text is no number.
-/

namespace BenchChart

namespace Progress

/-- What every progress line must contain, in the order in which it is looked for. -/
inductive Marker where
  | requests
  | time
  | unit
  | missRatio
  | loadAdmit
  | cacheRate
  | coreRate
  deriving DecidableEq, Repr

inductive Field where
  | time
  | requests
  | missRatio
  | loadAdmit
  | cacheRate
  | coreRate
  deriving DecidableEq, Repr

inductive Fault where
  | missingMarker (marker : Marker)
  /-- All markers occur, but not in the layout. -/
  | malformed
  | invalidNumber (field : Field) (value : List Char)
  deriving DecidableEq, Repr

def Marker.text : Marker → String
  | .requests => "#"
  | .time => " @ "
  | .unit => " ms"
  | .missRatio => "miss_ratio = "
  | .loadAdmit => "load_admit = "
  | .cacheRate => "cache_tp = "
  | .coreRate => "core_tp = "

def Marker.all : List Marker :=
  [.requests, .time, .unit, .missRatio, .loadAdmit, .cacheRate, .coreRate]

def Field.name : Field → String
  | .time => "time_ms"
  | .requests => "num_reqs"
  | .missRatio => "miss_ratio"
  | .loadAdmit => "load_admit"
  | .cacheRate => "cache_tp"
  | .coreRate => "core_tp"

def Fault.message : Fault → String
  | .missingMarker marker => "progress line lacks the '" ++ marker.text ++ "' marker"
  | .malformed => "progress line does not follow the expected field layout"
  | .invalidNumber field value =>
    "cannot convert " ++ field.name ++ " value '" ++ String.ofList value ++ "'"

def lineStart : List Char := "...".toList

def isProgressLine (line : List Char) : Bool := Text.startsWith lineStart (Text.trim line)

def missingMarker? (line : List Char) : Option Marker :=
  Marker.all.find? fun marker => !Text.occurs marker.text.toList line

def diagnose (line : List Char) : Fault :=
  match missingMarker? line with
  | some marker => .missingMarker marker
  | none => .malformed

def readField {α : Type} (read? : List Char → Option α) (field : Field) (value : List Char) :
    Except Fault α :=
  match read? (Text.trim value) with
  | some x => .ok x
  | none => .error (.invalidNumber field value)

/-- A count of requests: less than `2 ^ 64`. -/
def requests? (cs : List Char) : Option UInt64 :=
  (Numeral.count? UInt64.size cs).map Nat.toUInt64

/-- The sample that the texts of a line stand for. The log's throughputs are in KiB/s. -/
def sampleOfLayout (l : Layout) : Except Fault Sample := do
  -- The first field here whose text is no number decides the fault.
  let time ← readField Numeral.real? .time l.time
  let requests ← readField requests? .requests l.requests
  let missRatio ← readField Numeral.real? .missRatio l.missRatio
  let loadAdmit ← readField Numeral.real? .loadAdmit l.loadAdmit
  let cacheRate ← readField Numeral.real? .cacheRate l.cacheRate
  let coreRate ← readField Numeral.real? .coreRate l.coreRate
  return { time, requests, missRatio, loadAdmit
           cacheRate := Rate.kibToMib cacheRate
           coreRate := Rate.kibToMib coreRate }

/-- The sample of a progress line without the blanks at its ends. -/
def readLine (line : List Char) : Except Fault Sample :=
  match Layout.scan? line with
  | some l => sampleOfLayout l
  | none => .error (diagnose line)

theorem missingMarker?_eq_none_iff (line : List Char) :
    missingMarker? line = none ↔
      ∀ marker ∈ Marker.all, Text.occurs marker.text.toList line = true := by
  simp [missingMarker?]

end Progress

end BenchChart
