import BenchChart.Pattern.Node
import BenchChart.Unicode.Property
import BenchChart.Unicode.Script

/-!
# Classes of characters by property

A property is asked for by a name alone, or by a name and a value. Names may be written in any case,
with blanks, hyphens and underscores anywhere and with `is` in front. A name alone is that of a
property, of a general category or of a script.
-/

namespace BenchChart

namespace Pattern

/-- A name in its plain form. The one short name that consists of `is` and a letter is kept. -/
def plainName (name : String) : String :=
  let chars := name.toList
  let start := (chars.take 2).map Char.toLower
  let body := if start = ['i', 's'] then chars.drop 2 else chars
  let kept := (body.filter fun c =>
    decide (c.toNat < 0x80) && c != ' ' && c != '_' && c != '-').map Char.toLower
  if start = ['i', 's'] ∧ kept = ['c'] then "isc" else String.ofList kept

def categories? (name : String) : Option (List Unicode.Category) :=
  match name with
  | "c" | "other" => some Unicode.Category.others
  | "cc" | "control" | "cntrl" => some [.control]
  | "cf" | "format" => some [.format]
  | "cn" | "unassigned" => some [.unassigned]
  | "co" | "privateuse" => some [.privateUse]
  | "l" | "letter" => some Unicode.Category.letters
  | "lc" | "casedletter" => some Unicode.Category.casedLetters
  | "ll" | "lowercaseletter" => some [.lowercaseLetter]
  | "lm" | "modifierletter" => some [.modifierLetter]
  | "lo" | "otherletter" => some [.otherLetter]
  | "lt" | "titlecaseletter" => some [.titlecaseLetter]
  | "lu" | "uppercaseletter" => some [.uppercaseLetter]
  | "m" | "mark" | "combiningmark" => some Unicode.Category.marks
  | "mc" | "spacingmark" => some [.spacingMark]
  | "me" | "enclosingmark" => some [.enclosingMark]
  | "mn" | "nonspacingmark" => some [.nonspacingMark]
  | "n" | "number" => some Unicode.Category.numbers
  | "nd" | "decimalnumber" | "digit" => some [.decimalNumber]
  | "nl" | "letternumber" => some [.letterNumber]
  | "no" | "othernumber" => some [.otherNumber]
  | "p" | "punctuation" | "punct" => some Unicode.Category.punctuation
  | "pc" | "connectorpunctuation" => some [.connectorPunctuation]
  | "pd" | "dashpunctuation" => some [.dashPunctuation]
  | "pe" | "closepunctuation" => some [.closePunctuation]
  | "pf" | "finalpunctuation" => some [.finalPunctuation]
  | "pi" | "initialpunctuation" => some [.initialPunctuation]
  | "po" | "otherpunctuation" => some [.otherPunctuation]
  | "ps" | "openpunctuation" => some [.openPunctuation]
  | "s" | "symbol" => some Unicode.Category.symbols
  | "sc" | "currencysymbol" => some [.currencySymbol]
  | "sk" | "modifiersymbol" => some [.modifierSymbol]
  | "sm" | "mathsymbol" => some [.mathSymbol]
  | "so" | "othersymbol" => some [.otherSymbol]
  | "z" | "separator" => some Unicode.Category.separators
  | "zl" | "lineseparator" => some [.lineSeparator]
  | "zp" | "paragraphseparator" => some [.paragraphSeparator]
  | "zs" | "spaceseparator" => some [.spaceSeparator]
  | _ => none

def categoryClass? (name : String) : Option (Char → Bool) :=
  match name with
  | "any" => some fun _ => true
  | "assigned" => some fun c => !Unicode.Category.holds [.unassigned] c
  | "ascii" => some fun c => decide (c.toNat < 0x80)
  | _ => (categories? name).map Unicode.Category.holds

def script? (name : String) : Option Unicode.Script :=
  Unicode.Script.all.find? fun script => (script.names.map plainName).contains name

def property? (name : String) : Option (Char → Bool) :=
  (Unicode.properties.find? fun entry => entry.1.contains name).map (·.2)

/-- Whether a name is that of some property, known to this library or not. -/
def isPropertyName (name : String) : Bool :=
  (property? name).isSome || Unicode.otherPropertyNames.contains name

def emptyNames : List String :=
  ["cs", "surrogate", "hrkt", "katakanaorhiragana", "zzzz", "unknown"]

def foundOr {α : Type} (fault : Fault) : Option α → Except Fault α
  | none => .error fault
  | some a => .ok a

def Query.accepts : Query → Except Fault (Char → Bool)
  | .named name =>
    let name := plainName name
    let category := categoryClass? name
    let script := (script? name).map Unicode.Script.contains
    let fault := if emptyNames.contains name then Fault.propertyValueNotFound else .propertyNotFound
    foundOr fault (property? name <|> category <|> script)
  | .valued name value =>
    let name := plainName name
    let value := plainName value
    if name = "gc" ∨ name = "generalcategory" then
      foundOr .propertyValueNotFound (categoryClass? value)
    else if name = "sc" ∨ name = "script" then
      foundOr .propertyValueNotFound ((script? value).map Unicode.Script.contains)
    else if name = "scx" ∨ name = "scriptextensions" then
      foundOr .propertyValueNotFound ((script? value).map Unicode.Script.uses)
    else .error (if isPropertyName name then .propertyValueNotFound else .propertyNotFound)

end Pattern

end BenchChart
