import BenchChart.Text.Hexadecimal
import BenchChart.Text.Utf8
import BenchChart.Unicode.Property

/-!
# Quoted names

How a file name that is not UTF-8 is shown: in quotes, with `\xNN` for each byte that cannot be read
and an escape for each character that would not show by itself.
-/

namespace BenchChart

namespace Text

/-- Whether a character would not show by itself. -/
def isHidden (c : Char) : Bool := Unicode.extendsGrapheme c || !Unicode.isPrintable c

def quoteChar (c : Char) : List Char :=
  if c = '\x00' then ['\\', '0']
  else if c = '\t' then ['\\', 't']
  else if c = '\r' then ['\\', 'r']
  else if c = '\n' then ['\\', 'n']
  else if c = '"' ∨ c = '\\' then ['\\', c]
  else if isHidden c then "\\u\x7b".toList ++ hexChars c.toNat ++ ['\x7d']
  else [c]

def quoteChunk : Chunk → List Char
  | .char c => quoteChar c
  | .malformed bytes => bytes.flatMap fun b => '\\' :: 'x' :: hexByte b

def quote (bytes : List UInt8) : List Char :=
  '"' :: (chunks bytes).flatMap quoteChunk ++ ['"']

end Text

end BenchChart
