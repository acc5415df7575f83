/-!
# Finding a literal in a text

`cut lit cs` splits a text at the first occurrence of a literal into what stands before and what
stands after it. `cutLast` splits at the last occurrence. Both halves glued to the literal give the
text again.
-/

namespace BenchChart

namespace Text

/-- The rest of a text after a literal that it starts with. -/
def after? : List Char → List Char → Option (List Char)
  | [], cs => some cs
  | _ :: _, [] => none
  | l :: lit, c :: cs => if l = c then after? lit cs else none

theorem after?_eq_some_iff {lit cs rest : List Char} :
    after? lit cs = some rest ↔ cs = lit ++ rest := by
  induction lit generalizing cs with
  | nil => simp [after?, eq_comm]
  | cons l lit ih =>
    cases cs with
    | nil => simp [after?]
    | cons c cs =>
      by_cases h : l = c
      · subst h; simp [after?, ih]
      · simp [after?, h, Ne.symm h]

def startsWith (lit cs : List Char) : Bool := (after? lit cs).isSome

def endsWith (lit cs : List Char) : Bool := startsWith lit.reverse cs.reverse

def cut (lit : List Char) : List Char → Option (List Char × List Char)
  | [] => (after? lit []).map ([], ·)
  | c :: cs =>
    match after? lit (c :: cs) with
    | some rest => some ([], rest)
    | none => (cut lit cs).map fun (before, rest) => (c :: before, rest)

def cutLast (lit : List Char) (cs : List Char) : Option (List Char × List Char) :=
  (cut lit.reverse cs.reverse).map fun (after, before) => (before.reverse, after.reverse)

def occurs (lit cs : List Char) : Bool := (cut lit cs).isSome

theorem eq_of_cut {lit cs before rest : List Char} (h : cut lit cs = some (before, rest)) :
    cs = before ++ lit ++ rest := by
  induction cs generalizing before with
  | nil =>
    simp only [cut, Option.map_eq_some_iff] at h
    obtain ⟨r, hr, he⟩ := h
    cases he
    simpa using after?_eq_some_iff.1 hr
  | cons c cs ih =>
    simp only [cut] at h
    split at h
    · next r hr => cases h; simpa using after?_eq_some_iff.1 hr
    · simp only [Option.map_eq_some_iff] at h
      obtain ⟨⟨b, r⟩, hb, he⟩ := h
      cases he
      simp [ih hb]

end Text

end BenchChart
