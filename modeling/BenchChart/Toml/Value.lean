import BenchChart.Binary64.Basic

/-!
# TOML values

What a TOML document holds, and what can be wrong with one. A table keeps its keys in the order of
the document, each once.
-/

namespace BenchChart

namespace Toml

/-- A value of a document. A date or time is kept as its normalized text. -/
inductive Value where
  | text (s : String)
  | integer (n : Int)
  | real (x : Binary64)
  | boolean (b : Bool)
  | moment (s : String)
  | array (items : List Value)
  | table (entries : List (String × Value))

inductive Fault where
  | unexpected
  | unclosedString
  | badEscape
  | badScalar (word : String)
  | duplicate (key : String)
  | notTable (key : String)
  /-- Too many arrays and inline tables within each other, or too many keys in a path. -/
  | tooDeep
  deriving DecidableEq

/-- A fault and the line of the expression that it is found in. -/
structure Error where
  line : Nat
  fault : Fault
  deriving DecidableEq

def Fault.message : Fault → String
  | .unexpected => "unexpected character or end of text"
  | .unclosedString => "string is not closed"
  | .badEscape => "unknown escape sequence"
  | .badScalar word => "invalid value '" ++ word ++ "'"
  | .duplicate key => "duplicate key '" ++ key ++ "'"
  | .notTable key => "key '" ++ key ++ "' is not a table"
  | .tooDeep => "values are nested too deeply"

def Error.message (e : Error) : String := "line " ++ toString e.line ++ ": " ++ e.fault.message

end Toml

end BenchChart
