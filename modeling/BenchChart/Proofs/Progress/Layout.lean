import BenchChart.Proofs.Progress.Match

/-!
# The layout as a pattern

The layout of a progress line is a pattern of seven literals with gaps after them. Searched for with
backtracking, leftmost and with the least in each gap but the last, it gives what `Layout.scan?`
finds in one pass: no literal ever has to be tried at a later place. The layout that is found is the
first in the order of the lengths of its texts.
-/

namespace BenchChart

namespace Progress

/-- The pattern of a progress line. -/
def linePattern : List Part :=
  [.literal Layout.requestsMark, .gap (some .requests) false,
    .literal Layout.timeMark, .gap (some .time) false,
    .literal Layout.unitMark, .gap none false,
    .literal Layout.missRatioMark, .gap (some .missRatio) false,
    .literal Layout.loadAdmitMark, .gap (some .loadAdmit) false,
    .literal Layout.cacheRateMark, .gap (some .cacheRate) false,
    .literal Layout.coreRateMark, .gap (some .coreRate) true]

example : linePattern.map Part.written =
    ["#", "(?P<num_reqs>.*?)", " @ ", "(?P<time_ms>.*?)", " ms", ".*?", "miss_ratio = ",
      "(?P<miss_ratio>.*?)", ", load_admit = ", "(?P<load_admit>.*?)", ", cache_tp = ",
      "(?P<cache_tp>.*?)", ", core_tp = ", "(?P<core_tp>.*)"] := by
  decide +kernel

namespace Layout

/-- The literals of the layout, each with the field that the text after it belongs to. -/
def marks : List (List Char × Option Field) :=
  [(requestsMark, some .requests), (timeMark, some .time), (unitMark, none),
    (missRatioMark, some .missRatio), (loadAdmitMark, some .loadAdmit),
    (cacheRateMark, some .cacheRate), (coreRateMark, some .coreRate)]

def literals : List (List Char) := marks.map Prod.fst

/-- The texts around the literals. -/
def pieces (l : Layout) : List (List Char) :=
  [l.lead, l.requests, l.time, l.gap, l.missRatio, l.loadAdmit, l.cacheRate, l.coreRate]

def text (l : Layout) : Field → List Char
  | .time => l.time
  | .requests => l.requests
  | .missRatio => l.missRatio
  | .loadAdmit => l.loadAdmit
  | .cacheRate => l.cacheRate
  | .coreRate => l.coreRate

def lengths (l : Layout) : List Nat := l.pieces.dropLast.map List.length

/-- The match of the pattern that takes the texts. -/
def toMatch (l : Layout) : Match := Match.ofPieces marks l.pieces

/-- The texts are those of a line, and any other texts of this line have a longer one where they
first differ. -/
def Preferred (l : Layout) (line : List Char) : Prop :=
  l.glue = line ∧ ∀ m : Layout, m.glue = line → m = l ∨ List.Lex (· < ·) l.lengths m.lengths

theorem alternate_marks : alternate marks = linePattern := rfl

@[simp] theorem pieces_inj {l m : Layout} : l.pieces = m.pieces ↔ l = m := by
  cases l
  cases m
  simp [pieces]

theorem glue_eq (l : Layout) :
    l.glue = l.lead ++ requestsMark ++ (l.requests ++ timeMark ++ (l.time ++ unitMark ++
      (l.gap ++ missRatioMark ++ (l.missRatio ++ loadAdmitMark ++ (l.loadAdmit ++ cacheRateMark ++
        (l.cacheRate ++ coreRateMark ++ l.coreRate)))))) := by
  simp [glue]

theorem woven_pieces (l : Layout) : Text.Woven literals l.pieces l.glue := by
  rw [glue_eq]
  exact .cons _ _ (.cons _ _ (.cons _ _ (.cons _ _ (.cons _ _ (.cons _ _ (.cons _ _ (.last _)))))))

theorem woven_pieces_iff {l : Layout} {line : List Char} :
    Text.Woven literals l.pieces line ↔ l.glue = line := by
  constructor
  · intro h
    exact (woven_pieces l).text_eq h
  · rintro rfl
    exact woven_pieces l

/-- Pieces around the literals are the texts of a layout. -/
theorem exists_pieces_eq {pieces : List (List Char)} {line : List Char}
    (h : Text.Woven literals pieces line) : ∃ l : Layout, l.pieces = pieces := by
  have hlen : pieces.length = 8 := h.length_eq
  match pieces, hlen with
  | [lead, requests, time, gap, missRatio, loadAdmit, cacheRate, coreRate], _ =>
    exact ⟨⟨lead, requests, time, gap, missRatio, loadAdmit, cacheRate, coreRate⟩, rfl⟩

/-- The scan of a line cuts it at the literals, one after the other. -/
theorem pieces?_literals (line : List Char) :
    Text.pieces? literals line = (scan? line).map pieces := by
  simp [scan?, literals, marks, Text.pieces?_cons, Option.map_bind, Function.comp_def, pieces]

theorem scan?_eq_some_iff {line : List Char} {l : Layout} :
    scan? line = some l ↔ Text.pieces? literals line = some l.pieces := by
  rw [pieces?_literals, Option.map_eq_some_iff]
  constructor
  · intro h
    exact ⟨l, h, rfl⟩
  · rintro ⟨m, h, he⟩
    rwa [← pieces_inj.1 he]

/-- A line has a layout if there is any way to lay it out. -/
theorem exists_scan?_iff {line : List Char} :
    (∃ l, scan? line = some l) ↔ ∃ l : Layout, l.glue = line := by
  constructor
  · rintro ⟨l, h⟩
    exact ⟨l, glue_of_scan? h⟩
  · rintro ⟨l, rfl⟩
    obtain ⟨pieces, hp⟩ := Text.exists_pieces?_iff.2 ⟨_, woven_pieces l⟩
    obtain ⟨m, rfl⟩ := exists_pieces_eq (Text.woven_of_pieces? hp)
    exact ⟨m, scan?_eq_some_iff.2 hp⟩

theorem preferred_of_scan? {line : List Char} {l : Layout} (h : scan? line = some l) :
    l.Preferred line := by
  refine ⟨glue_of_scan? h, ?_⟩
  intro m hm
  have hwoven := woven_pieces_iff.2 hm
  rcases Text.eq_or_lex_of_pieces? (scan?_eq_some_iff.1 h) hwoven with heq | hlex
  · exact .inl (pieces_inj.1 heq)
  · exact .inr hlex

/-- The layout that is found is the preferred one. -/
theorem scan?_eq_some_iff_preferred {line : List Char} {l : Layout} :
    scan? line = some l ↔ l.Preferred line := by
  constructor
  · exact preferred_of_scan?
  · rintro ⟨hglue, hfirst⟩
    obtain ⟨m, hm⟩ := exists_scan?_iff.2 ⟨l, hglue⟩
    obtain ⟨hmglue, hmfirst⟩ := preferred_of_scan? hm
    rcases hfirst m hmglue with rfl | hlex
    · exact hm
    · rcases hmfirst l hglue with rfl | hlex'
      · exact hm
      · exact absurd hlex' (List.lex_asymm Nat.lt_asymm hlex)

theorem captured?_toMatch (l : Layout) (field : Field) :
    l.toMatch.captured? field = some (l.text field) := by
  cases field <;> rfl

theorem text_toMatch (l : Layout) : l.toMatch.text = l.glue := by
  simp [Match.text, toMatch, Match.ofPieces, pieces, fill, marks, glue]

theorem toMatch_inj {l m : Layout} : l.toMatch = m.toMatch ↔ l = m := by
  cases l
  cases m
  simp [toMatch, Match.ofPieces, fill, marks, pieces]

/-- Searching for the pattern finds what scanning the line finds. -/
theorem search?_eq_map_scan? {line : List Char} (h : '\n' ∉ line) :
    search? linePattern line = (scan? line).map toMatch := by
  have hmarks : marks ≠ [] := List.cons_ne_nil _ _
  rw [← alternate_marks, search?_alternate hmarks h, ← literals, pieces?_literals,
    Option.map_map]
  rfl

theorem isSome_search?_iff {line : List Char} (h : '\n' ∉ line) :
    (search? linePattern line).isSome ↔ ∃ l : Layout, l.glue = line := by
  rw [search?_eq_map_scan? h, Option.isSome_map, Option.isSome_iff_exists]
  exact exists_scan?_iff

theorem search?_eq_some_iff_preferred {line : List Char} (h : '\n' ∉ line) {l : Layout} :
    search? linePattern line = some l.toMatch ↔ l.Preferred line := by
  rw [search?_eq_map_scan? h, Option.map_eq_some_iff, ← scan?_eq_some_iff_preferred]
  constructor
  · rintro ⟨m, hm, he⟩
    rwa [← toMatch_inj.1 he]
  · intro hl
    exact ⟨l, hl, rfl⟩

end Layout

/-- Searching for the pattern and scanning the line find the same layout. There is one if the line
can be laid out at all; it is then cut at the first `#` and at the first occurrence of each later
literal after the one before it, and it comes first in the order of the lengths of its texts. -/
theorem search?_linePattern (line : List Char) (h : '\n' ∉ line) :
    search? linePattern line = (Layout.scan? line).map Layout.toMatch ∧
      ((search? linePattern line).isSome ↔ ∃ l : Layout, l.glue = line) ∧
      ∀ l : Layout,
        (Layout.scan? line = some l ↔ Text.CutInTurn Layout.literals l.pieces line) ∧
          (search? linePattern line = some l.toMatch ↔ l.Preferred line) ∧
          (∀ field, l.toMatch.captured? field = some (l.text field)) ∧
          l.toMatch.text = l.glue := by
  refine ⟨Layout.search?_eq_map_scan? h, Layout.isSome_search?_iff h, ?_⟩
  intro l
  refine ⟨?_, Layout.search?_eq_some_iff_preferred h, Layout.captured?_toMatch l,
    Layout.text_toMatch l⟩
  rw [Layout.scan?_eq_some_iff]
  exact Text.pieces?_eq_some_iff

theorem search?_linePattern_of_repeated_mark :
    let l : Layout := ⟨"...".toList, [], "ms @ 2".toList, " ms ".toList, "0".toList, "1".toList,
      "8".toList, ", core_tp = 9".toList⟩
    '\n' ∉ l.glue ∧ search? linePattern l.glue = some l.toMatch := by
  intro l
  have h : '\n' ∉ l.glue := by decide +kernel
  have hscan : Layout.scan? l.glue = some l := by decide +kernel
  refine ⟨h, ?_⟩
  rw [(search?_linePattern l.glue h).1, hscan, Option.map_some]

end Progress

end BenchChart
