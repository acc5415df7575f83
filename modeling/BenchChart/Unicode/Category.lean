import BenchChart.Unicode.Category.Rows
import BenchChart.Unicode.Ranges

/-!
# General categories

Every character has one general category, which says what kind of character it is. Categories with
a common first letter in their short name form a group.
-/

namespace BenchChart

namespace Unicode

inductive Category where
  | uppercaseLetter
  | lowercaseLetter
  | titlecaseLetter
  | modifierLetter
  | otherLetter
  | nonspacingMark
  | spacingMark
  | enclosingMark
  | decimalNumber
  | letterNumber
  | otherNumber
  | connectorPunctuation
  | dashPunctuation
  | openPunctuation
  | closePunctuation
  | initialPunctuation
  | finalPunctuation
  | otherPunctuation
  | mathSymbol
  | currencySymbol
  | modifierSymbol
  | otherSymbol
  | spaceSeparator
  | lineSeparator
  | paragraphSeparator
  | control
  | format
  | surrogate
  | privateUse
  | unassigned
  deriving DecidableEq, Repr

namespace Category

def table : List (Category × Ranges) := [
  (.uppercaseLetter, .ofRows Rows.uppercaseLetter),
  (.lowercaseLetter, .ofRows Rows.lowercaseLetter),
  (.titlecaseLetter, .ofRows Rows.titlecaseLetter),
  (.modifierLetter, .ofRows Rows.modifierLetter),
  (.otherLetter, .ofRows Rows.otherLetter),
  (.nonspacingMark, .ofRows Rows.nonspacingMark),
  (.spacingMark, .ofRows Rows.spacingMark),
  (.enclosingMark, .ofRows Rows.enclosingMark),
  (.decimalNumber, .ofRows Rows.decimalNumber),
  (.letterNumber, .ofRows Rows.letterNumber),
  (.otherNumber, .ofRows Rows.otherNumber),
  (.connectorPunctuation, .ofRows Rows.connectorPunctuation),
  (.dashPunctuation, .ofRows Rows.dashPunctuation),
  (.openPunctuation, .ofRows Rows.openPunctuation),
  (.closePunctuation, .ofRows Rows.closePunctuation),
  (.initialPunctuation, .ofRows Rows.initialPunctuation),
  (.finalPunctuation, .ofRows Rows.finalPunctuation),
  (.otherPunctuation, .ofRows Rows.otherPunctuation),
  (.mathSymbol, .ofRows Rows.mathSymbol),
  (.currencySymbol, .ofRows Rows.currencySymbol),
  (.modifierSymbol, .ofRows Rows.modifierSymbol),
  (.otherSymbol, .ofRows Rows.otherSymbol),
  (.spaceSeparator, .ofRows Rows.spaceSeparator),
  (.lineSeparator, .ofRows Rows.lineSeparator),
  (.paragraphSeparator, .ofRows Rows.paragraphSeparator),
  (.control, .ofRows Rows.control),
  (.format, .ofRows Rows.format),
  (.surrogate, .ofRows Rows.surrogate),
  (.privateUse, .ofRows Rows.privateUse)]

def ofChar (c : Char) : Category :=
  ((table.find? fun row => row.2.contains c).map (·.1)).getD .unassigned

def letters : List Category :=
  [.uppercaseLetter, .lowercaseLetter, .titlecaseLetter, .modifierLetter, .otherLetter]

def casedLetters : List Category := [.uppercaseLetter, .lowercaseLetter, .titlecaseLetter]

def marks : List Category := [.nonspacingMark, .spacingMark, .enclosingMark]

def numbers : List Category := [.decimalNumber, .letterNumber, .otherNumber]

def punctuation : List Category :=
  [.connectorPunctuation, .dashPunctuation, .openPunctuation, .closePunctuation,
    .initialPunctuation, .finalPunctuation, .otherPunctuation]

def symbols : List Category := [.mathSymbol, .currencySymbol, .modifierSymbol, .otherSymbol]

def separators : List Category := [.spaceSeparator, .lineSeparator, .paragraphSeparator]

def others : List Category := [.control, .format, .surrogate, .privateUse, .unassigned]

def holds (categories : List Category) (c : Char) : Bool := categories.contains (ofChar c)

end Category

end Unicode

end BenchChart
