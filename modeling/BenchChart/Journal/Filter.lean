import BenchChart.Journal
import BenchChart.Pattern
import BenchChart.Text.Blank
import BenchChart.Text.Search
import BenchChart.Text.Split

/-!
# Which events are shown

A filter is a list of rules. The rule with the longest target that the target of an event starts
with decides how important the event must be to be shown. A rule without target decides where no
other does, and without any rules only errors are shown. A filter is written as rules separated by
commas, `target=level`, each of which may leave out the target or the level, and perhaps after a
slash a pattern that must match somewhere in the messages.
-/

namespace BenchChart

namespace Level

def all : List Level := [.error, .warn, .info, .debug, .trace]

/-- The limit of a name, in any case of letters: a level, or `off` for nothing at all. -/
def limitOf? (name : List Char) : Option (Option Level) :=
  let word := String.ofList (name.map Char.toUpper)
  if word = "OFF" then some none
  else (all.find? fun level => level.name == word).map some

end Level

namespace Journal

structure Rule where
  /-- What the target of the event starts with; `none` for any target. -/
  target : Option (List Char)
  /-- The least important level that is shown, if any is. -/
  limit : Option Level
  deriving DecidableEq

structure Filter where
  rules : List Rule
  pattern : Option Pattern.Matcher

namespace Rule

/-- The length of the target, which is zero for any target. -/
def weight (rule : Rule) : Nat := (rule.target.map List.length).getD 0

def applies (rule : Rule) (target : List Char) : Bool :=
  match rule.target with
  | none => true
  | some start => Text.startsWith start target

def allows (rule : Rule) (level : Level) : Bool :=
  match rule.limit with
  | none => false
  | some limit => decide (level.depth ≤ limit.depth)

def parse (text : List Char) : Except (List Char) Rule :=
  match Text.split '=' text with
  | [word] =>
    match Level.limitOf? word with
    | some limit => .ok ⟨none, limit⟩
    | none => .ok ⟨some word, some .trace⟩
  | [target, word] =>
    let name := Text.trim word
    if name.isEmpty then .ok ⟨some target, some .trace⟩
    else match Level.limitOf? name with
      | some limit => .ok ⟨some target, limit⟩
      | none => .error name
  | _ => .error text

end Rule

namespace Filter

def errorsOnly : Filter := ⟨[⟨none, some .error⟩], none⟩

def ofLevel (level : Level) : Filter := ⟨[⟨none, some level⟩], none⟩

/-- The rules with one more, which replaces one with the same target. -/
def addRule (rules : List Rule) (rule : Rule) : List Rule :=
  if rules.any (·.target == rule.target) then
    rules.map fun old => if old.target = rule.target then rule else old
  else rules ++ [rule]

/-- The later of two rules unless the earlier one has the longer target. -/
def stronger (old : Option Rule) (rule : Rule) : Option Rule :=
  match old with
  | none => some rule
  | some r => if r.weight ≤ rule.weight then some rule else some r

def decider? (filter : Filter) (target : List Char) : Option Rule :=
  (filter.rules.filter (·.applies target)).foldl stronger none

def shows (filter : Filter) (event : Event) : Bool :=
  (match filter.decider? event.target.toList with
    | none => false
    | some rule => rule.allows event.level) &&
  match filter.pattern with
    | none => true
    | some matcher => matcher.occursIn event.message.toList

def parseRules (texts : List (List Char)) : List String × List Rule :=
  texts.foldl (fun (warnings, rules) text =>
    match Rule.parse text with
    | .ok rule => (warnings, addRule rules rule)
    | .error part =>
      (warnings ++ ["invalid logging spec '" ++ String.ofList part ++ "'"], rules)) ([], [])

def parsePattern : Option (List Char) → List String × Option Pattern.Matcher
  | none => ([], none)
  | some text =>
    match Pattern.compile text with
    | .ok matcher => ([], some matcher)
    | .error report => (["invalid regex filter - " ++ report], none)

def parse (spec : String) : List String × Filter :=
  match Text.split '/' spec.toList with
  | rules :: more =>
    if 1 < more.length then
      (["invalid logging spec '" ++ spec ++ "' (too many '/'s)"], errorsOnly)
    else
      let texts := ((Text.split ',' rules).map Text.trim).filter (!·.isEmpty)
      let (warnings, rules) := parseRules texts
      let (more, pattern) := parsePattern more.head?
      (warnings ++ more, ⟨if rules.isEmpty then errorsOnly.rules else rules, pattern⟩)
  | [] => ([], errorsOnly)

theorem shows_ofLevel (level : Level) (event : Event) :
    (ofLevel level).shows event = decide (event.level.depth ≤ level.depth) := by
  simp [shows, ofLevel, decider?, Rule.applies, stronger, Rule.allows]

end Filter

end Journal

end BenchChart
