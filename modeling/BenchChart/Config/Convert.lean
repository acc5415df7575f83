import BenchChart.Config.Error
import BenchChart.Config.Setting
import BenchChart.Decimal.Style
import BenchChart.Settings

/-!
# From settings to values

A setting need not have the very type that is asked for. A number may be written as text, a word
such as `yes` or `off` counts as one or zero, a real number becomes a count by rounding, and
whatever is not a list or a table can be a text. Fields of the chart are set by name in a table or
by position in an array; a field that is not set has its default.
-/

namespace BenchChart

namespace Config

namespace Setting

/-- What a word says, in any case of letters. -/
def flag? (s : String) : Option Bool :=
  let word := String.ofList (s.toList.map Char.toLower)
  if word = "true" ∨ word = "on" ∨ word = "yes" then some true
  else if word = "false" ∨ word = "off" ∨ word = "no" then some false
  else none

def ofFlag (b : Bool) : Nat := if b then 1 else 0

def real? : Setting → Option Binary64
  | .real x => some x
  | .integer n => some (Binary64.ofInt n)
  | .boolean b => some (Binary64.ofNat (ofFlag b))
  | .text s =>
    match flag? s with
    | some b => some (Binary64.ofNat (ofFlag b))
    | none => Numeral.real? s.toList
  | _ => none

/-- The count nearest to a real number; NaN and what is below zero count as zero. -/
def nearestCount? : Binary64 → Option Nat
  | .nan => some 0
  | .infinite s => if s then some 0 else none
  | .finite s n h => (Binary64.finite s n h).nearest?.map Int.toNat

def count? (bound : Nat) (setting : Setting) : Option Nat :=
  let n? := match setting with
    | .integer n => if n < 0 then none else some n.toNat
    | .real x => nearestCount? x
    | .boolean b => some (ofFlag b)
    | .text s =>
      match flag? s with
      | some b => some (ofFlag b)
      | none => Numeral.count? bound s.toList
    | _ => none
  n?.filter (· < bound)

def text? : Setting → Option String
  | .text s => some s
  | .integer n => some (String.ofList (Decimal.integerChars n))
  | .real x => some (Style.plain.format x)
  | .boolean b => some (if b then "true" else "false")
  | _ => none

/-- The first two items of an array. What follows them is passed over. -/
def range? : Setting → Option Range
  | .array (lo :: hi :: _) => do return ⟨← lo.real?, ← hi.real?⟩
  | _ => none

def pixels (key : String) (setting : Setting) : Except Error UInt32 :=
  match setting.count? UInt32.size with
  | some n => .ok n.toUInt32
  | none => .error (.unconvertible key "a number of pixels")

/-- A limit of an axis, which may be left open. -/
def limit (key : String) (setting : Setting) : Except Error (Option Range) :=
  match setting with
  | .unset => .ok none
  | _ =>
    match setting.range? with
    | some r => .ok (some r)
    | none => .error (.unconvertible key "a pair of numbers")

/-- The field of a name in a table, or at a position in an array. -/
def field? (setting : Setting) (name : String) (position : Nat) : Option Setting :=
  match setting with
  | .table entries => entries.lookup name
  | .array items => items[position]?
  | _ => none

def fieldOr {α : Type} (setting : Setting) (default : α)
    (convert : String → Setting → Except Error α) (name : String) (position : Nat) :
    Except Error α :=
  match setting.field? name position with
  | none => .ok default
  | some s => convert ("chart." ++ name) s

def hasFields : Setting → Bool
  | .table _ => true
  | .array _ => true
  | _ => false

def chart (setting : Setting) : Except Error Settings :=
  if setting.hasFields then do
    let width ← setting.fieldOr Settings.defaultWidth pixels "width" 0
    let height ← setting.fieldOr Settings.defaultHeight pixels "height" 1
    let missRatioLimit ← setting.fieldOr none limit "miss_ratio_ylim" 2
    let loadAdmitLimit ← setting.fieldOr none limit "load_admit_ylim" 3
    let rateLimit ← setting.fieldOr none limit "throughput_ylim" 4
    return { width, height, missRatioLimit, loadAdmitLimit, rateLimit }
  else .error (.unconvertible "chart" "a table")

end Setting

end Config

end BenchChart
