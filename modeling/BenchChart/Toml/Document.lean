import BenchChart.Entries
import BenchChart.Toml.Scalar

/-!
# TOML documents

Tables are built key by key. Where a table came from decides what may be added to it: a header may
open a table once, or after it was implied by the header of a table below it; dotted keys add only
to tables without a header of their own, which no header may open after that. Inline tables and
arrays are complete as written.
-/

namespace BenchChart

namespace Toml

inductive Origin where
  /-- By the header of a table below it. -/
  | implied
  | header
  /-- By keys with dots. -/
  | dotted
  deriving DecidableEq

inductive Item where
  | value (v : Value)
  | table (origin : Origin) (entries : List (String × Item))
  /-- The tables of an array, the newest first. -/
  | tables (elements : List (List (String × Item)))

abbrev Items := List (String × Item)

namespace Items

/-- How a table came about once a value is added below it: the table that the value itself stands in
is one that dotted keys made. -/
def originBelow (origin : Origin) : List String → Origin
  | [_] => .dotted
  | _ => origin

/-- Adds a value below dotted keys. The keys may lead through tables that have no header of their
own and through the newest tables of arrays, but the value itself may not stand directly in an
element of an array. -/
def add (value : Value) : List String → Items → Except Fault Items
  | [], _ => .error .unexpected
  | [k], entries =>
    if (entries.lookup k).isNone then .ok (entries ++ [(k, .value value)])
    else .error (.duplicate k)
  | k :: ks, entries =>
    match entries.lookup k with
    | none => do return entries ++ [(k, .table .dotted (← add value ks []))]
    | some (.table .header _) => .error (.duplicate k)
    | some (.table origin below) => do
      return Entries.put k (.table (originBelow origin ks) (← add value ks below)) entries
    | some (.tables (newest :: older)) =>
      if ks.length = 1 then .error (.duplicate k)
      else do return Entries.put k (.tables ((← add value ks newest) :: older)) entries
    | some _ => .error (.notTable k)

/-- Changes the table at the end of a path of headers. Tables on the way that do not exist are
implied, and an array of tables leads into its newest table. -/
def alter (change : Items → Except Fault Items) : List String → Items → Except Fault Items
  | [], entries => change entries
  | k :: ks, entries =>
    match entries.lookup k with
    | none => do return entries ++ [(k, .table .implied (← alter change ks []))]
    | some (.table origin below) => do
      return Entries.put k (.table origin (← alter change ks below)) entries
    | some (.tables (newest :: older)) => do
      return Entries.put k (.tables ((← alter change ks newest) :: older)) entries
    | some _ => .error (.notTable k)

def openTable (k : String) (entries : Items) : Except Fault Items :=
  match entries.lookup k with
  | none => .ok (entries ++ [(k, .table .header [])])
  | some (.table .implied below) => .ok (Entries.put k (.table .header below) entries)
  | some _ => .error (.duplicate k)

def openElement (k : String) (entries : Items) : Except Fault Items :=
  match entries.lookup k with
  | none => .ok (entries ++ [(k, .tables [[]])])
  | some (.tables elements) => .ok (Entries.put k (.tables ([] :: elements)) entries)
  | some _ => .error (.duplicate k)

def openHeader (element : Bool) (path : List String) (entries : Items) : Except Fault Items :=
  match path.getLast? with
  | none => .error .unexpected
  | some k => alter (if element then openElement k else openTable k) path.dropLast entries

end Items

mutual

def Item.finish : Item → Value
  | .value v => v
  | .table _ entries => .table (finishEntries entries)
  | .tables elements => .array (finishTables elements).reverse

def finishEntries : List (String × Item) → List (String × Value)
  | [] => []
  | (k, item) :: rest => (k, item.finish) :: finishEntries rest

def finishTables : List (List (String × Item)) → List Value
  | [] => []
  | entries :: rest => .table (finishEntries entries) :: finishTables rest

end

mutual

/-- A value of any kind. Arrays and inline tables may nest `depth` deep; `fuel` bounds their length
as well. -/
def value (depth : Nat) : Nat → List Char → Except Fault (Value × List Char)
  | 0, _ => .error .unexpected
  | fuel + 1, cs =>
    match quoted? cs, cs with
    | some scanned, _ => scanned.map fun (s, rest) => (.text (String.ofList s), rest)
    | none, '[' :: rest =>
      if depth = 0 then .error .tooDeep
      else (arrayItems (depth - 1) fuel rest).map fun (items, after) => (.array items, after)
    | none, '{' :: rest =>
      if depth = 0 then .error .tooDeep
      else (inlineEntries (depth - 1) fuel [] rest).map fun (items, after) =>
        (.table (finishEntries items), after)
    | none, _ => scalar cs

def arrayItems (depth : Nat) : Nat → List Char → Except Fault (List Value × List Char)
  | 0, _ => .error .unexpected
  | fuel + 1, cs => do
    match ← skipTrivia false cs with
    | ']' :: rest => return ([], rest)
    | start =>
      let (item, rest) ← value depth fuel start
      match ← skipTrivia false rest with
      | ',' :: after =>
        let (items, final) ← arrayItems depth fuel after
        return (item :: items, final)
      | ']' :: final => return ([item], final)
      | _ => .error .unexpected

def inlineEntries (depth : Nat) : Nat → Items → List Char → Except Fault (Items × List Char)
  | 0, _, _ => .error .unexpected
  | fuel + 1, entries, cs => do
    match ← skipTrivia false cs with
    | '}' :: rest => return (entries, rest)
    | start =>
      let (names, afterKeys) ← keyPath fuel start
      match ← skipTrivia false afterKeys with
      | '=' :: beforeValue =>
        let (v, rest) ← value depth fuel (← skipTrivia false beforeValue)
        let more ← entries.add v names
        match ← skipTrivia false rest with
        | ',' :: after => inlineEntries depth fuel more after
        | '}' :: final => return (more, final)
        | _ => .error .unexpected
      | _ => .error .unexpected

end

def maxDepth : Nat := 80

/-- One expression of a document, with the header that it stands below and the text after its line:
a header opens a table, and any other expression gives a key a value. -/
def expression (fuel : Nat) (header : List String) (entries : Items) (cs : List Char) :
    Except Fault (List String × Items × List Char) := do
  match cs with
  | '[' :: '[' :: rest =>
    match ← keyPath fuel rest with
    | (path, ']' :: ']' :: after) =>
      return (path, ← entries.openHeader true path, ← endOfLine false after)
    | _ => .error .unexpected
  | '[' :: rest =>
    match ← keyPath fuel rest with
    | (path, ']' :: after) =>
      return (path, ← entries.openHeader false path, ← endOfLine false after)
    | _ => .error .unexpected
  | _ =>
    match ← keyPath fuel cs with
    | (names, '=' :: beforeValue) =>
      let (v, rest) ← value maxDepth fuel (skipGap beforeValue)
      let after ← endOfLine false rest
      return (header, ← entries.alter (Items.add v names) header, after)
    | _ => .error .unexpected

/-- The entries that the expressions of a text give; a fault comes with the text that it is found
in. -/
def expressions : Nat → List String → Items → List Char → Except (Fault × List Char) Items
  | 0, _, _, cs => .error (.unexpected, cs)
  | fuel + 1, header, entries, cs =>
    match skipTrivia false cs with
    | .error fault => .error (fault, cs)
    | .ok [] => .ok entries
    | .ok start =>
      match expression (start.length + 1) header entries start with
      | .error fault => .error (fault, start)
      | .ok (header, entries, rest) => expressions fuel header entries rest

def countLines (cs : List Char) : Nat := cs.count '\n'

def skipMark : List Char → List Char
  | '\uFEFF' :: cs => cs
  | cs => cs

def read (text : List Char) : Except Error (List (String × Value)) :=
  let cs := skipMark text
  match expressions (cs.length + 1) [] [] cs with
  | .ok entries => .ok (finishEntries entries)
  -- The line is that of the expression, counted by what is left of the text.
  | .error (fault, rest) => .error ⟨countLines cs - countLines rest + 1, fault⟩

end Toml

end BenchChart
