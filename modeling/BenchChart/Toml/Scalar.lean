import BenchChart.Decimal.Numeral
import BenchChart.Toml.Scan

/-!
# TOML numbers, booleans, dates and times

A value that is not quoted or bracketed is one word, except that a blank may separate a date from a
time. Numbers may have underscores between digits; integers are those of 64 bits; a real number too
large to be finite is refused.
-/

namespace BenchChart

namespace Toml

def isWordChar (c : Char) : Bool :=
  c.isAlphanum || c == '_' || c == '-' || c == '+' || c == '.' || c == ':'

/-- Digits without the underscores between them. The flag tells whether a digit stands before. -/
def plainDigits? (isDigit : Char → Bool) : Bool → List Char → Option (List Char)
  | afterDigit, [] => if afterDigit then some [] else none
  | afterDigit, c :: cs =>
    if isDigit c then (plainDigits? isDigit true cs).map (c :: ·)
    else if c = '_' ∧ afterDigit then plainDigits? isDigit false cs
    else none

def wholeDigits? (cs : List Char) : Option (List Char) := do
  let digits ← plainDigits? Char.isDigit false cs
  if digits.head? = some '0' ∧ digits.length ≠ 1 then none else some digits

def based? (base : Nat) (cs : List Char) : Option Int := do
  let isDigit := fun c => match Text.hexDigit? c with
    | some d => decide (d < base)
    | none => false
  let digits ← plainDigits? isDigit false cs
  return digits.foldl (fun n c => n * base + ((Text.hexDigit? c).getD 0 : Nat)) 0

def decimalInteger? (word : List Char) : Option Int :=
  let (negative, body) := Numeral.splitSign word
  (wholeDigits? body).map fun digits =>
    if negative then -(Decimal.ofDigitChars digits : Int) else Decimal.ofDigitChars digits

def anyInteger? : List Char → Option Int
  | '0' :: 'x' :: cs => based? 16 cs
  | '0' :: 'o' :: cs => based? 8 cs
  | '0' :: 'b' :: cs => based? 2 cs
  | word => decimalInteger? word

def integerBound : Int := 0x8000000000000000

def integer? (word : List Char) : Option Int :=
  (anyInteger? word).filter fun n => -integerBound ≤ n && n < integerBound

def splitAt (p : Char → Bool) (cs : List Char) : List Char × List Char :=
  (cs.takeWhile (!p ·), cs.dropWhile (!p ·))

/-- The exponent that stands after its mark; zeros in front are allowed. -/
def power? : List Char → Option Int
  | [] => some 0
  | _ :: cs =>
    let (negative, body) := Numeral.splitSign cs
    (plainDigits? Char.isDigit false body).map fun digits =>
      if negative then -(Decimal.ofDigitChars digits : Int) else Decimal.ofDigitChars digits

def fractionDigits? : List Char → Option (List Char)
  | [] => some []
  | _ :: cs => plainDigits? Char.isDigit false cs

def real? (word : List Char) : Option Binary64 := do
  let (negative, body) := Numeral.splitSign word
  if body = ['i', 'n', 'f'] then return .infinite negative
  if body = ['n', 'a', 'n'] then return .nan
  let (mantissa, power) := splitAt (fun c => c == 'e' || c == 'E') body
  let (whole, fraction) := splitAt (· == '.') mantissa
  -- Without a fraction and an exponent it would be an integer.
  if power.isEmpty && fraction.isEmpty then failure
  let wholeDigits ← wholeDigits? whole
  let fractionDigits ← fractionDigits? fraction
  let exponent ← power? power
  let digits := Decimal.ofDigitChars (wholeDigits ++ fractionDigits)
  let x := Decimal.toBinary64 negative ⟨digits, exponent - fractionDigits.length⟩
  if x.isFinite then return x else failure

def fixedDigits? (count : Nat) (cs : List Char) : Option (Nat × List Char) := do
  let n ← Numeral.digits? (cs.take count)
  if cs.length < count then none else some (n, cs.drop count)

def expect? (c : Char) : List Char → Option (List Char)
  | d :: cs => if c = d then some cs else none
  | [] => none

def daysIn (year month : Nat) : Nat :=
  if month = 2 then
    if year % 4 = 0 ∧ (year % 100 ≠ 0 ∨ year % 400 = 0) then 29 else 28
  else if month = 4 ∨ month = 6 ∨ month = 9 ∨ month = 11 then 30
  else 31

def date? (cs : List Char) : Option (List Char × List Char) := do
  let (year, rest) ← fixedDigits? 4 cs
  let (month, rest) ← fixedDigits? 2 (← expect? '-' rest)
  let (day, rest) ← fixedDigits? 2 (← expect? '-' rest)
  if month < 1 ∨ 12 < month ∨ day < 1 ∨ daysIn year month < day then failure
  return (cs.take 10, rest)

/-- The fraction of a second, as text, and the text after it. At most nine digits are kept, and of
the zeros at the end only one that is alone. -/
def fraction? : List Char → Option (List Char × List Char)
  | '.' :: cs =>
    let digits := cs.takeWhile Char.isDigit
    let kept := ((digits.take 9).reverse.dropWhile (· == '0')).reverse
    if digits.isEmpty then none
    else some ('.' :: if kept.isEmpty then ['0'] else kept, cs.dropWhile Char.isDigit)
  | cs => some ([], cs)

/-- A time of day, as text, and the text after it. The seconds may be left out. -/
def time? (cs : List Char) : Option (List Char × List Char) := do
  let (hour, rest) ← fixedDigits? 2 cs
  let (minute, rest) ← fixedDigits? 2 (← expect? ':' rest)
  if 23 < hour ∨ 59 < minute then failure
  match rest with
  | ':' :: after =>
    let (second, rest) ← fixedDigits? 2 after
    if 60 < second then failure
    let (fraction, rest) ← fraction? rest
    return (cs.take 8 ++ fraction, rest)
  | _ => return (cs.take 5, rest)

/-- The offset of a time from universal time, as text: `Z`, or a sign with hours and minutes. The
sign of no offset is a plus. -/
def offset? (cs : List Char) : Option (List Char) := do
  match cs with
  | [] => return []
  | ['Z'] => return ['Z']
  | ['z'] => return ['Z']
  | sign :: rest =>
    if sign ≠ '+' ∧ sign ≠ '-' then failure
    let (hour, rest) ← fixedDigits? 2 rest
    let (minute, rest) ← fixedDigits? 2 (← expect? ':' rest)
    if 23 < hour ∨ 59 < minute ∨ !rest.isEmpty then failure
    return if hour = 0 ∧ minute = 0 then '+' :: cs.drop 1 else cs

def moment? (word : List Char) : Option (List Char) :=
  match date? word with
  | some (date, []) => some date
  | some (date, mark :: rest) => do
    if mark ≠ 'T' ∧ mark ≠ 't' ∧ mark ≠ ' ' then failure
    let (time, after) ← time? rest
    return date ++ 'T' :: time ++ (← offset? after)
  | none => do
    let (time, after) ← time? word
    if after.isEmpty then return time else failure

def scalar? (word : List Char) : Option Value :=
  if word = ['t', 'r', 'u', 'e'] then some (.boolean true)
  else if word = ['f', 'a', 'l', 's', 'e'] then some (.boolean false)
  else match integer? word, real? word, moment? word with
    | some n, _, _ => some (.integer n)
    | none, some x, _ => some (.real x)
    | none, none, some s => some (.moment (String.ofList s))
    | none, none, none => none

/-- The word at the start of a text: with a blank and what follows it if that is a time after a
date. -/
def word (cs : List Char) : List Char × List Char :=
  let first := cs.takeWhile isWordChar
  let rest := cs.dropWhile isWordChar
  match date? first, rest with
  | some (_, []), ' ' :: after =>
    match time? after with
    | some _ => (first ++ ' ' :: after.takeWhile isWordChar, after.dropWhile isWordChar)
    | none => (first, rest)
  | _, _ => (first, rest)

def scalar (cs : List Char) : Scanned Value :=
  let (text, rest) := word cs
  match scalar? text with
  | some v => .ok (v, rest)
  | none => .error (if text.isEmpty then .unexpected else .badScalar (String.ofList text))

end Toml

end BenchChart
