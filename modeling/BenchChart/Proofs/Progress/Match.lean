import BenchChart.Proofs.Text.Pieces
import BenchChart.Progress.Line

/-!
# Matches in order of preference

A pattern is a list of parts: literals, and gaps that take any characters but line feeds. A gap is
eager or not, which says whether it prefers many characters or few. `ways` lists all ways to take
the start of a text, the preferred ones first, as a matcher with backtracking tries them: what an
earlier part prefers comes before what a later part prefers. `search?` takes the first way from the
leftmost place that has one.

For a pattern in which literals and gaps alternate, `search?_alternate` gives the same match by
`Text.pieces?`, which never goes back.
-/

namespace BenchChart

namespace Progress

inductive Part where
  /-- A text that stands for itself. -/
  | literal (text : List Char)
  /-- Characters of one line, kept for a field or not: as many as possible if the gap is eager, and
  otherwise as few as possible. -/
  | gap (field : Option Field) (eager : Bool)
  deriving DecidableEq

def Part.written : Part → String
  | .literal text => String.ofList text
  | .gap field eager =>
    let dots := if eager then ".*" else ".*?"
    match field with
    | none => dots
    | some kept => "(?P<" ++ kept.name ++ ">" ++ dots ++ ")"

/-- How a part is taken, together with the parts after it. -/
structure Way where
  taken : List (Part × List Char)
  left : List Char
  deriving DecidableEq

/-- A way that starts somewhere in a text. -/
structure Match where
  before : List Char
  way : Way
  deriving DecidableEq

def Way.cons (part : Part) (text : List Char) (way : Way) : Way :=
  ⟨(part, text) :: way.taken, way.left⟩

def Match.text (m : Match) : List Char :=
  m.before ++ m.way.taken.flatMap Prod.snd ++ m.way.left

def Part.isFor (field : Field) : Part → Bool
  | .gap (some kept) _ => kept == field
  | _ => false

/-- The text that a match keeps for a field. -/
def Match.captured? (m : Match) (field : Field) : Option (List Char) :=
  (m.way.taken.find? fun taken => taken.1.isFor field).map (·.2)

/-- What a gap can take of the start of a text, and what is then left: the least first. -/
def gapWays : List Char → List (List Char × List Char)
  | [] => [([], [])]
  | c :: cs =>
    ([], c :: cs) ::
      if c = '\n' then [] else (gapWays cs).map fun split => (c :: split.1, split.2)

/-- The ways to take the parts of a pattern from the start of a text, the preferred ones first. -/
def ways : List Part → List Char → List Way
  | [], cs => [⟨[], cs⟩]
  | .literal text :: parts, cs =>
    match Text.after? text cs with
    | none => []
    | some rest => (ways parts rest).map (Way.cons (.literal text) text)
  | .gap field eager :: parts, cs =>
    (if eager then (gapWays cs).reverse else gapWays cs).flatMap fun split =>
      (ways parts split.2).map (Way.cons (.gap field eager) split.1)

/-- The preferred way to take the parts of a pattern from the start of a text. -/
def firstWay (parts : List Part) (cs : List Char) : Option Way := (ways parts cs).head?

/-- The preferred match of a pattern among those that start leftmost. -/
def search? (parts : List Part) : List Char → Option Match
  | [] => (firstWay parts []).map (⟨[], ·⟩)
  | c :: cs =>
    match firstWay parts (c :: cs) with
    | some way => some ⟨[], way⟩
    | none => (search? parts cs).map fun m => ⟨c :: m.before, m.way⟩

@[simp] theorem firstWay_nil (cs : List Char) : firstWay [] cs = some ⟨[], cs⟩ := rfl

theorem firstWay_literal_cons (text : List Char) (parts : List Part) (cs : List Char) :
    firstWay (.literal text :: parts) cs =
      (Text.after? text cs).bind fun rest =>
        (firstWay parts rest).map (Way.cons (.literal text) text) := by
  cases h : Text.after? text cs with
  | none => simp [firstWay, ways, h]
  | some rest => simp [firstWay, ways, h]

theorem firstWay_gap_cons (field : Option Field) (eager : Bool) (parts : List Part)
    (cs : List Char) :
    firstWay (.gap field eager :: parts) cs =
      (if eager then (gapWays cs).reverse else gapWays cs).findSome? fun split =>
        (firstWay parts split.2).map (Way.cons (.gap field eager) split.1) := by
  simp only [firstWay, ways, List.head?_flatMap, List.head?_map]

/-- A gap can take a whole line, and that is the most. -/
theorem getLast?_gapWays {cs : List Char} (h : '\n' ∉ cs) :
    (gapWays cs).getLast? = some (cs, []) := by
  induction cs with
  | nil => rfl
  | cons c cs ih =>
      obtain ⟨hc, hcs⟩ : '\n' ≠ c ∧ '\n' ∉ cs := by simpa using h
      rw [gapWays, if_neg hc.symm, List.getLast?_cons, List.getLast?_map, ih hcs]
      rfl

/-- An eager gap at the end of a pattern takes the rest of the line. -/
theorem firstWay_eager {cs : List Char} (h : '\n' ∉ cs) (field : Option Field) :
    firstWay [.gap field true] cs = some ⟨[(.gap field true, cs)], []⟩ := by
  obtain ⟨front, hw⟩ := List.getLast?_eq_some_iff.1 (getLast?_gapWays h)
  rw [firstWay_gap_cons, if_pos rfl, hw, List.reverse_append]
  rfl

theorem search?_of_firstWay {parts : List Part} {cs : List Char} {way : Way}
    (h : firstWay parts cs = some way) : search? parts cs = some ⟨[], way⟩ := by
  cases cs with
  | nil => rw [search?, h, Option.map_some]
  | cons c cs => rw [search?, h]

theorem search?_cons_of_none {parts : List Part} {c : Char} {cs : List Char}
    (h : firstWay parts (c :: cs) = none) :
    search? parts (c :: cs) = (search? parts cs).map fun m => ⟨c :: m.before, m.way⟩ := by
  rw [search?, h]

/-- What a gap prefers to take before other parts, if it is not eager, is what a search passes
over. -/
theorem findSome?_gapWays {cs : List Char} (h : '\n' ∉ cs) (parts : List Part) :
    ((gapWays cs).findSome? fun split => (firstWay parts split.2).map (Match.mk split.1)) =
      search? parts cs := by
  induction cs with
  | nil => cases hw : firstWay parts [] <;> simp [gapWays, search?, hw]
  | cons c cs ih =>
      obtain ⟨hc, hcs⟩ : '\n' ≠ c ∧ '\n' ∉ cs := by simpa using h
      rw [gapWays, if_neg hc.symm, List.findSome?_cons, List.findSome?_map]
      cases hw : firstWay parts (c :: cs) with
      | some way => rw [search?_of_firstWay hw, Option.map_some]
      | none =>
          rw [search?_cons_of_none hw, ← ih hcs, List.map_findSome?, Option.map_none]
          simp only [Function.comp_def, Option.map_map]

/-- A gap that is not eager takes what a search for the parts after it passes over. -/
theorem firstWay_lazy {cs : List Char} (h : '\n' ∉ cs) (field : Option Field)
    (parts : List Part) :
    firstWay (.gap field false :: parts) cs =
      (search? parts cs).map fun m => m.way.cons (.gap field false) m.before := by
  rw [firstWay_gap_cons, if_neg Bool.false_ne_true, ← findSome?_gapWays h, List.map_findSome?]
  simp only [Function.comp_def, Option.map_map]

/-- A match in the end of a text is not lost in the whole text. -/
theorem isSome_search?_of_suffix {parts : List Part} {cs ds : List Char} (hs : cs <:+ ds)
    (h : (search? parts cs).isSome) : (search? parts ds).isSome := by
  induction ds with
  | nil => rwa [List.suffix_nil.1 hs] at h
  | cons d ds ih =>
      rcases List.suffix_cons_iff.1 hs with rfl | hs
      · exact h
      · cases hw : firstWay parts (d :: ds) with
        | some way => simp [search?_of_firstWay hw]
        | none => simpa [search?_cons_of_none hw] using ih hs

theorem isSome_firstWay_literal_cons {text : List Char} {parts : List Part} {cs : List Char}
    (h : (firstWay (.literal text :: parts) cs).isSome) :
    ∃ rest, cs = text ++ rest ∧ (firstWay parts rest).isSome := by
  rw [firstWay_literal_cons] at h
  obtain ⟨_, hw⟩ := Option.isSome_iff_exists.1 h
  obtain ⟨rest, hr, hm⟩ := Option.bind_eq_some_iff.1 hw
  obtain ⟨way, hway, -⟩ := Option.map_eq_some_iff.1 hm
  exact ⟨rest, Text.after?_eq_some_iff.1 hr, by rw [hway, Option.isSome_some]⟩

theorem exists_of_search?_literal_cons {text : List Char} {parts : List Part} {cs : List Char}
    (h : (search? (.literal text :: parts) cs).isSome) :
    ∃ before rest, cs = before ++ text ++ rest ∧ (firstWay parts rest).isSome := by
  induction cs with
  | nil =>
      rw [search?, Option.isSome_map] at h
      obtain ⟨rest, he, hrest⟩ := isSome_firstWay_literal_cons h
      exact ⟨[], rest, he, hrest⟩
  | cons c cs ih =>
      cases hw : firstWay (.literal text :: parts) (c :: cs) with
      | some way =>
          obtain ⟨rest, he, hrest⟩ := isSome_firstWay_literal_cons (Option.isSome_of_eq_some hw)
          exact ⟨[], rest, he, hrest⟩
      | none =>
          rw [search?_cons_of_none hw, Option.isSome_map] at h
          obtain ⟨before, rest, rfl, hrest⟩ := ih h
          exact ⟨c :: before, rest, rfl, hrest⟩

/-- Parts do not mind more text in front if they can be taken from any longer end of a line from
which they can be taken at all. -/
def Lasting (parts : List Part) : Prop :=
  ∀ cs ds : List Char, cs <:+ ds → '\n' ∉ ds →
    (firstWay parts cs).isSome → (firstWay parts ds).isSome

/-- If lasting parts fail after the first occurrence of a literal, they fail after all others. -/
theorem search?_literal_cons_eq_none {text : List Char} {parts : List Part} {c : Char}
    {cs rest : List Char} (hp : Lasting parts) (h : '\n' ∉ c :: cs)
    (ha : Text.after? text (c :: cs) = some rest) (hr : firstWay parts rest = none) :
    search? (.literal text :: parts) cs = none := by
  rw [← Option.not_isSome_iff_eq_none]
  intro hs
  obtain ⟨before, later, he, hlater⟩ := exists_of_search?_literal_cons hs
  have hcs : c :: cs = c :: before ++ text ++ later := by simp [he]
  have hsuffix : later <:+ rest := Text.suffix_of_cut (Text.cut_cons_of_some ha) hcs
  have hrest : '\n' ∉ rest := by
    intro hn
    rw [Text.after?_eq_some_iff.1 ha] at h
    exact h (List.mem_append_right text hn)
  have hsome := hp later rest hsuffix hrest hlater
  rw [hr] at hsome
  cases hsome

/-- A literal before lasting parts may be taken where it first occurs. -/
theorem search?_literal_cons {cs : List Char} (h : '\n' ∉ cs) (text : List Char)
    {parts : List Part} (hp : Lasting parts) :
    search? (.literal text :: parts) cs =
      (Text.cut text cs).bind fun cut =>
        (firstWay parts cut.2).map fun way => ⟨cut.1, way.cons (.literal text) text⟩ := by
  induction cs with
  | nil =>
      rw [search?, firstWay_literal_cons, Text.cut]
      cases Text.after? text [] <;> simp [Function.comp_def]
  | cons c cs ih =>
      have hw := firstWay_literal_cons text parts (c :: cs)
      cases ha : Text.after? text (c :: cs) with
      | none =>
          rw [ha, Option.bind_none] at hw
          rw [search?_cons_of_none hw, ih (mt (List.mem_cons_of_mem c) h),
            Text.cut_cons_of_none ha]
          cases Text.cut text cs <;> simp [Function.comp_def]
      | some rest =>
          rw [ha, Option.bind_some] at hw
          rw [Text.cut_cons_of_some ha, Option.bind_some]
          cases hr : firstWay parts rest with
          | some way =>
              rw [hr, Option.map_some] at hw
              rw [search?_of_firstWay hw, Option.map_some]
          | none =>
              rw [hr, Option.map_none] at hw
              rw [search?_cons_of_none hw, search?_literal_cons_eq_none hp h ha hr]
              rfl

theorem lasting_eager (field : Option Field) : Lasting [.gap field true] := by
  intro _ ds _ hds _
  rw [firstWay_eager hds, Option.isSome_some]

theorem lasting_lazy (field : Option Field) (parts : List Part) :
    Lasting (.gap field false :: parts) := by
  intro cs ds hs hds h
  have hcs : '\n' ∉ cs := fun hn => hds (hs.subset hn)
  rw [firstWay_lazy hcs, Option.isSome_map] at h
  rw [firstWay_lazy hds, Option.isSome_map]
  exact isSome_search?_of_suffix hs h

/-- The pattern in which each literal is followed by a gap. The last gap is eager, all others are
not. -/
def alternate : List (List Char × Option Field) → List Part
  | [] => []
  | (text, field) :: more => .literal text :: .gap field more.isEmpty :: alternate more

/-- What the parts of such a pattern take if the gaps take the given pieces. -/
def fill : List (List Char × Option Field) → List (List Char) → List (Part × List Char)
  | (text, field) :: more, piece :: pieces =>
    (.literal text, text) :: (.gap field more.isEmpty, piece) :: fill more pieces
  | _, _ => []

/-- The match that takes a whole line, given the pieces around the literals. -/
def Match.ofPieces (marks : List (List Char × Option Field)) (pieces : List (List Char)) : Match :=
  ⟨pieces.headD [], fill marks pieces.tail, []⟩

/-- For literals and gaps in turn, the preferred match is found without going back. -/
theorem search?_alternate {marks : List (List Char × Option Field)} (hm : marks ≠ [])
    {cs : List Char} (h : '\n' ∉ cs) :
    search? (alternate marks) cs =
      (Text.pieces? (marks.map Prod.fst) cs).map (Match.ofPieces marks) := by
  -- What comes after a literal lasts, so its first occurrence is never given up for a later one.
  induction marks generalizing cs with
  | nil => exact absurd rfl hm
  | cons mark more ih =>
      obtain ⟨text, field⟩ := mark
      have hp : Lasting (.gap field more.isEmpty :: alternate more) := by
        cases more with
        | nil => exact lasting_eager field
        | cons next more => exact lasting_lazy field _
      rw [alternate, search?_literal_cons h text hp, List.map_cons]
      cases hc : Text.cut text cs with
      | none => simp [Text.pieces?_cons, hc]
      | some split =>
          obtain ⟨before, rest⟩ := split
          have hrest : '\n' ∉ rest := by
            intro hn
            rw [Text.eq_of_cut hc] at h
            exact h (List.mem_append_right _ hn)
          rw [Option.bind_some, Text.pieces?_of_cut hc]
          cases more with
          | nil =>
              rw [List.isEmpty_nil, alternate, firstWay_eager hrest]
              rfl
          | cons next more =>
              rw [List.isEmpty_cons, firstWay_lazy hrest, ih (List.cons_ne_nil _ _) hrest]
              simp only [Option.map_map]
              cases hpieces : Text.pieces? ((next :: more).map Prod.fst) rest with
              | none => rfl
              | some pieces =>
                  obtain ⟨piece, later, rfl⟩ :=
                    List.exists_cons_of_ne_nil (Text.woven_of_pieces? hpieces).ne_nil
                  rfl

end Progress

end BenchChart
