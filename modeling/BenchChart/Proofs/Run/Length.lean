import BenchChart.Proofs.Run.ByIndex

/-!
# How long the names of artifacts are

An artifact's name repeats four pieces of the name of its log. If the marks stand in the order of
the layout, the pieces stand one after the other and the artifact's name is not longer than that of
the log. Pieces may overlap if a mark is missing or out of order: then the name grows, at most to
three times its length and six bytes more.
-/

namespace BenchChart

namespace Text

theorem byteLength_slice_of_samePlace {cs : List Char} {start stop startIndex stopIndex : Int}
    (hstart : SamePlace cs start startIndex) (hstop : SamePlace cs stop stopIndex) :
    byteLength (slice cs start stop) =
      clampOffset (byteLength cs) stop - clampOffset (byteLength cs) start := by
  rw [← length_encode, (slice_eq_between hstart hstop).2, between, List.length_drop,
    List.length_take, length_encode, ← clampOffset_eq_clampIndex, ← clampOffset_eq_clampIndex,
    Nat.min_eq_left (clampOffset_le ..)]

theorem clampOffset_neg_one (length : Nat) : clampOffset length (-1) = length - 1 := by
  rw [clampOffset, if_pos (by decide)]
  omega

theorem offsetOf_found (lit cs : List Char) : offsetOf lit cs = -1 ∨
    ∃ before, offsetOf lit cs = byteLength before ∧ before ++ lit <+: cs := by
  cases hcut : cut lit cs with
  | none => exact .inl (by rw [offsetOf, hcut])
  | some found => exact .inr ⟨found.1, offsetOf_of_cut hcut, found.2, (eq_of_cut hcut).symm⟩

/-- What starts with a character that a mark has at its start only comes after the mark or before
it. -/
theorem byteLength_le_of_later {before later rest cs : List Char} {c : Char} (hrest : c ∉ rest)
    (hbefore : before ++ c :: rest <+: cs) (hlater : later ++ [c] <+: cs)
    (h : byteLength before < byteLength later) :
    byteLength (before ++ c :: rest) ≤ byteLength later := by
  have hinside : ∀ more, later ++ c :: more ≠ before ++ c :: rest := by
    intro more hsplit
    rcases List.append_eq_append_iff.1 hsplit with ⟨middle, rfl, -⟩ | ⟨middle, rfl, hmiddle⟩
    · rw [byteLength_append] at h
      omega
    · cases middle with
      | nil => simp at h
      | cons d middle =>
          obtain ⟨-, hmore⟩ := List.cons.inj hmiddle
          exact hrest (by rw [hmore]; simp)
  rcases List.prefix_or_prefix_of_prefix hbefore hlater with hle | ⟨more, hmore⟩
  · rcases List.prefix_concat_iff.1 hle with heq | hle
    · exact absurd heq.symm (hinside [])
    · exact byteLength_le_of_isPrefix hle
  · exact absurd (by simpa using hmore) (hinside more)

end Text

namespace Run

variable {name mark : List Char}

/-- The marks stand in the order of the layout. -/
structure InOrder (name : List Char) : Prop where
  intensity : 0 ≤ Text.offsetOf intensityMark name
  read : Text.offsetOf intensityMark name < Text.offsetOf readMark name
  hit : Text.offsetOf readMark name < Text.offsetOf hitMark name
  mode : Text.offsetOf hitMark name < Text.lastOffsetOf modeMark name

theorem dash_cons_of_mark (h : mark ∈ [intensityMark, readMark, hitMark]) :
    ∃ rest, mark = '-' :: rest ∧ '-' ∉ rest ∧ Text.Ascii mark ∧ mark.length ≤ 5 := by
  have hmarks : ∀ mark ∈ [intensityMark, readMark, hitMark],
      mark = '-' :: mark.tail ∧ '-' ∉ mark.tail ∧ Text.Ascii mark ∧ mark.length ≤ 5 := by
    decide +kernel
  exact ⟨mark.tail, hmarks mark h⟩

theorem exists_dash_of_mark (name : List Char)
    (hmark : mark ∈ [intensityMark, readMark, hitMark]) :
    Text.offsetOf mark name = -1 ∨ ∃ before, Text.offsetOf mark name = Text.byteLength before ∧
      before ++ ['-'] <+: name ∧ Text.byteLength before + mark.length ≤ Text.byteLength name ∧
      ∀ later, later ++ ['-'] <+: name → Text.byteLength before < Text.byteLength later →
        Text.byteLength before + mark.length ≤ Text.byteLength later := by
  obtain ⟨rest, hcons, hrest, hascii, -⟩ := dash_cons_of_mark hmark
  refine (Text.offsetOf_found mark name).imp_right ?_
  rintro ⟨before, hoffset, hbefore⟩
  have hlength := Text.byteLength_append before mark
  rw [Text.byteLength_of_ascii hascii] at hlength
  refine ⟨before, hoffset, List.IsPrefix.trans ⟨rest, ?_⟩ hbefore, ?_, fun later hlater hlt => ?_⟩
  · rw [hcons, List.append_assoc, List.singleton_append]
  · rw [← hlength]
    exact Text.byteLength_le_of_isPrefix hbefore
  · rw [← hlength, hcons]
    rw [hcons] at hbefore
    exact Text.byteLength_le_of_later hrest hbefore hlater hlt

/-- Between a mark and a dash that comes later there is room for the mark. -/
theorem add_length_le_of_dash (hmark : mark ∈ [intensityMark, readMark, hitMark])
    (hfound : 0 ≤ Text.offsetOf mark name) {later : List Char} (hlater : later ++ ['-'] <+: name)
    (hlt : Text.offsetOf mark name < Text.byteLength later) :
    Text.offsetOf mark name + mark.length ≤ Text.byteLength later := by
  rcases exists_dash_of_mark name hmark with habsent | ⟨before, hoffset, -, -, hroom⟩
  · omega
  · rw [hoffset] at hlt ⊢
    exact_mod_cast hroom later hlater (by exact_mod_cast hlt)

theorem add_length_le_of_mark {other : List Char}
    (hmark : mark ∈ [intensityMark, readMark, hitMark])
    (hother : other ∈ [intensityMark, readMark, hitMark])
    (hfound : 0 ≤ Text.offsetOf mark name)
    (hlt : Text.offsetOf mark name < Text.offsetOf other name) :
    Text.offsetOf mark name + mark.length ≤ Text.offsetOf other name := by
  rcases exists_dash_of_mark name hother with habsent | ⟨later, hoffset, hlater, -, -⟩
  · omega
  · rw [hoffset] at hlt ⊢
    exact add_length_le_of_dash hmark hfound hlater hlt

section Log

variable (hlog : isLogName name = true)

include hlog

theorem bench_isPrefix : "bench".toList ++ ['-'] <+: name := by
  obtain ⟨hstart, -⟩ := exists_of_isLogName hlog
  exact hstart

theorem logEnd_isSuffix : logEnd <:+ name := by
  rw [isLogName, Bool.and_eq_true] at hlog
  exact Text.endsWith_iff.1 hlog.2

/-- Five characters stand before the first dash. -/
theorem five_le_of_dash {before : List Char} (h : before ++ ['-'] <+: name) :
    5 ≤ Text.byteLength before := by
  have hbench : "bench".toList <+: name := (List.prefix_append ..).trans (bench_isPrefix hlog)
  have hnone : '-' ∉ "bench".toList := by decide
  have hlength : Text.byteLength "bench".toList = 5 := by decide +kernel
  rcases List.prefix_or_prefix_of_prefix hbench h with hle | hle
  · rcases List.prefix_concat_iff.1 hle with heq | hle
    · exact absurd (by rw [heq]; simp) hnone
    · rw [← hlength]
      exact Text.byteLength_le_of_isPrefix hle
  · exact absurd (hle.subset (by simp)) hnone

/-- The ending of the name comes after the last dash. -/
theorem add_five_le_of_dash {before : List Char} (h : before ++ ['-'] <+: name) :
    Text.byteLength before + 5 ≤ Text.byteLength name := by
  obtain ⟨rest, hrest⟩ := h
  rw [List.append_assoc, List.singleton_append] at hrest
  have hnone : '-' ∉ logEnd := by decide +kernel
  have hlength : Text.byteLength logEnd = 4 := by decide +kernel
  have hend := logEnd_isSuffix hlog
  have hafter : logEnd <:+ rest := by
    rcases List.suffix_or_suffix_of_suffix hend ⟨before, hrest⟩ with hle | hle
    · rcases List.suffix_cons_iff.1 hle with heq | hle
      · exact absurd (by rw [heq]; simp) hnone
      · exact hle
    · exact absurd (hle.subset (by simp)) hnone
  obtain ⟨middle, rfl⟩ := hafter
  rw [← hrest, Text.byteLength_append, Text.byteLength_cons, Text.byteLength_append, hlength]
  have hdash : '-'.utf8Size = 1 := rfl
  omega

theorem ten_le_byteLength : 10 ≤ Text.byteLength name := by
  have hlength : Text.byteLength "bench".toList = 5 := by decide +kernel
  have hle := add_five_le_of_dash hlog (bench_isPrefix hlog)
  omega

/-- Where the piece before a mark stops and the piece after it starts. -/
def Edges (length size : Nat) (offset : Int) (stop start : Nat) : Prop :=
  offset = -1 ∧ stop = length - 1 ∧ start = size - 1 ∨
    ∃ k : Nat, offset = k ∧ 5 ≤ k ∧ k + size ≤ length ∧ stop = k ∧ start = k + size

theorem edges_of_mark (hmark : mark ∈ [intensityMark, readMark, hitMark]) :
    Edges (Text.byteLength name) mark.length (Text.offsetOf mark name)
      (Text.clampOffset (Text.byteLength name) (Text.offsetOf mark name))
      (Text.clampOffset (Text.byteLength name) (Text.offsetOf mark name + mark.length)) := by
  have hten := ten_le_byteLength hlog
  obtain ⟨rest, hcons, -, -, hle⟩ := dash_cons_of_mark hmark
  have hpos : 0 < mark.length := by rw [hcons]; exact Nat.zero_lt_succ _
  rcases exists_dash_of_mark name hmark with habsent | ⟨before, hoffset, hdash, hlength, -⟩
  · have hstart : (-1 : Int) + mark.length = (mark.length - 1 : Nat) := by omega
    rw [habsent, hstart, Text.clampOffset_neg_one, Text.clampOffset_natCast (by omega)]
    exact .inl ⟨rfl, rfl, rfl⟩
  · rw [hoffset, ← Int.natCast_add, Text.clampOffset_natCast (by omega),
      Text.clampOffset_natCast hlength]
    exact .inr ⟨_, rfl, five_le_of_dash hlog hdash, hlength, rfl, rfl⟩

theorem exists_lastDash : ∃ before, Text.lastOffsetOf modeMark name = Text.byteLength before ∧
    before ++ ['-'] <+: name := by
  obtain ⟨back, hback⟩ := bench_isPrefix hlog
  rw [List.append_assoc, List.singleton_append] at hback
  obtain ⟨before, hoffset, hbefore, -⟩ := Text.lastOffsetOf_cases '-' "bench".toList back
  rw [hback] at hoffset hbefore
  exact ⟨before, hoffset, hbefore⟩

theorem exists_end : ∃ k : Nat, Text.offsetOf logEnd name = k ∧ k + 4 ≤ Text.byteLength name := by
  have hlength : Text.byteLength logEnd = 4 := by decide +kernel
  obtain ⟨front, hfront⟩ := logEnd_isSuffix hlog
  have hend : front ++ logEnd <+: name := ⟨[], by rw [List.append_nil, hfront]⟩
  obtain ⟨before, hoffset, hbefore, -⟩ := Text.offsetOf_cases (by decide +kernel) hend
  have hle := Text.byteLength_le_of_isPrefix hbefore
  rw [Text.byteLength_append, hlength] at hle
  exact ⟨Text.byteLength before, hoffset, hle⟩

end Log

theorem length_artifactFile (run : Run) (format : Artifact.Format) :
    (run.artifactFile format).length =
      Text.byteLength run.intensity.toList + Text.byteLength run.readPercentage.toList +
        Text.byteLength run.hitRatio.toList + Text.byteLength run.mode.toList + 23 := by
  have hintensity : Text.byteLength "bench-int".toList = 9 := by decide +kernel
  have hread : Text.byteLength "-read".toList = 5 := by decide +kernel
  have hhit : Text.byteLength "-hit".toList = 4 := by decide +kernel
  have hmode : Text.byteLength "-".toList = 1 := by decide +kernel
  have hdot : Text.byteLength ".".toList = 1 := by decide +kernel
  have hextension : Text.byteLength format.extension.toList = 3 := by
    cases format <;> decide +kernel
  rw [artifactFile, Text.length_encode, toList_artifactName]
  simp only [Text.byteLength_append, hintensity, hread, hhit, hmode, hdot, hextension]
  omega

/-- The bytes that the four pieces of a name have together. -/
def pieceLengths (name : List Char) : Nat :=
  let clamp := Text.clampOffset (Text.byteLength name)
  let intensity := Text.offsetOf intensityMark name
  let read := Text.offsetOf readMark name
  let hit := Text.offsetOf hitMark name
  let mode := Text.lastOffsetOf modeMark name
  let stop := Text.offsetOf logEnd name
  (clamp read - clamp (intensity + 4)) + (clamp hit - clamp (read + 5)) +
    (clamp mode - clamp (hit + 4)) + (clamp stop - clamp (mode + 1))

theorem map_byteLength_of_sameCut {bytes chars : List (Int × Int)}
    (h : List.Forall₂ (SameCut name) bytes chars) :
    ((bytes.map fun cut => Text.slice name cut.1 cut.2).map Text.byteLength) =
      bytes.map fun cut => Text.clampOffset (Text.byteLength name) cut.2 -
        Text.clampOffset (Text.byteLength name) cut.1 := by
  induction h with
  | nil => rfl
  | cons hcut _ ih =>
      exact congrArg₂ List.cons (Text.byteLength_slice_of_samePlace hcut.1 hcut.2) ih

theorem length_artifactFile_eq (hlog : isLogName name = true) (format : Artifact.Format) :
    ((ofFileName name).artifactFile format).length = pieceLengths name + 23 := by
  have hlengths := map_byteLength_of_sameCut (sameCut_cuts hlog)
  rw [← texts_ofFileName, cuts_encode] at hlengths
  simp only [texts, List.map_cons, List.map_nil, List.cons.injEq, and_true] at hlengths
  obtain ⟨hintensity, hread, hhit, hmode⟩ := hlengths
  rw [length_artifactFile, hintensity, hread, hhit, hmode]
  rfl

/-- Where the pieces stand, with the positions in the order of the name. -/
theorem exists_pieceLengths_eq (hlog : isLogName name = true) :
    ∃ before intensity read readAfter hit hitAfter mode stop : Nat,
      Edges (Text.byteLength name) 4 (Text.offsetOf intensityMark name) before intensity ∧
      Edges (Text.byteLength name) 5 (Text.offsetOf readMark name) read readAfter ∧
      Edges (Text.byteLength name) 4 (Text.offsetOf hitMark name) hit hitAfter ∧
      Text.lastOffsetOf modeMark name = mode ∧ 5 ≤ mode ∧ mode + 5 ≤ Text.byteLength name ∧
      stop + 4 ≤ Text.byteLength name ∧
      pieceLengths name = (read - intensity) + (hit - readAfter) + (mode - hitAfter) +
        (stop - (mode + 1)) := by
  obtain ⟨front, hmode, hdash⟩ := exists_lastDash hlog
  obtain ⟨stop, hstop, hend⟩ := exists_end hlog
  have hlength := add_five_le_of_dash hlog hdash
  refine ⟨_, _, _, _, _, _, Text.byteLength front, stop, edges_of_mark hlog (by simp),
    edges_of_mark hlog (by simp), edges_of_mark hlog (by simp), hmode, five_le_of_dash hlog hdash,
    hlength, hend, ?_⟩
  have hclamp : ∀ n : Nat, n ≤ Text.byteLength name →
      Text.clampOffset (Text.byteLength name) n = n := fun _ => Text.clampOffset_natCast
  have hafter : (Text.byteLength front : Int) + 1 = (Text.byteLength front + 1 : Nat) := rfl
  simp only [pieceLengths, hmode, hstop, hafter]
  rw [hclamp (Text.byteLength front) (by omega), hclamp (Text.byteLength front + 1) (by omega),
    hclamp stop (by omega)]
  rfl

/-- A mark that is missing lets a piece be all of the name but a few characters; two pieces can be
so, and the other two stand one after the other. -/
theorem pieceLengths_le (hlog : isLogName name = true) :
    pieceLengths name + 17 ≤ 3 * Text.byteLength name := by
  obtain ⟨_, intensity, read, readAfter, hit, hitAfter, mode, stop, hintensity, hread, hhit, -,
    hfive, hmode, hstop, hlengths⟩ := exists_pieceLengths_eq hlog
  rw [hlengths]
  rcases hintensity with ⟨-, -, hi⟩ | ⟨i, -, _, _, -, hi⟩ <;>
    rcases hread with ⟨-, hr, hra⟩ | ⟨r, -, _, _, hr, hra⟩ <;>
    rcases hhit with ⟨-, hh, hha⟩ | ⟨h, -, _, _, hh, hha⟩ <;> omega

/-- In the order of the layout the pieces and the marks between them stand one after the other. -/
theorem pieceLengths_le_of_inOrder (hlog : isLogName name = true) (horder : InOrder name) :
    pieceLengths name + 23 ≤ Text.byteLength name := by
  obtain ⟨hfound, hread, hhit, hmode⟩ := horder
  obtain ⟨front, hlast, hdash⟩ := exists_lastDash hlog
  have hroomRead : Text.offsetOf intensityMark name + 4 ≤ Text.offsetOf readMark name :=
    add_length_le_of_mark (by simp) (by simp) hfound hread
  have hroomHit : Text.offsetOf readMark name + 5 ≤ Text.offsetOf hitMark name :=
    add_length_le_of_mark (by simp) (by simp) (by omega) hhit
  have hroomMode : Text.offsetOf hitMark name + 4 ≤ Text.byteLength front :=
    add_length_le_of_dash (by simp) (by omega) hdash (hlast ▸ hmode)
  obtain ⟨_, intensity, read, readAfter, hit, hitAfter, mode, stop, hi, hr, hh, hm, -, hend, hstop,
    hlengths⟩ := exists_pieceLengths_eq hlog
  rw [hlengths]
  rcases hi with ⟨hi, -, -⟩ | ⟨i, hi, _, _, -, hi'⟩
  · omega
  rcases hr with ⟨hr, -, -⟩ | ⟨r, hr, _, _, hr', hr''⟩
  · omega
  rcases hh with ⟨hh, -, -⟩ | ⟨h, hh, _, _, hh', hh''⟩
  · omega
  omega

/-- The name of an artifact has at most three times as many bytes as that of its log, and six more;
it has no more at all if the marks stand in the order of the layout. -/
theorem length_artifactFile_bounds (hlog : isLogName name = true) (format : Artifact.Format) :
    ((ofFileName name).artifactFile format).length ≤ 3 * (Text.encode name).length + 6 ∧
      (InOrder name →
        ((ofFileName name).artifactFile format).length ≤ (Text.encode name).length) := by
  rw [Text.length_encode, length_artifactFile_eq hlog]
  refine ⟨?_, pieceLengths_le_of_inOrder hlog⟩
  have hbound := pieceLengths_le hlog
  omega

section Unmarked

/-- A log's name without any of the marks. -/
def unmarked (size : Nat) : List Char :=
  "bench".toList ++ '-' :: (List.replicate size 'x' ++ ".txt".toList)

theorem isLogName_unmarked (size : Nat) : isLogName (unmarked size) = true := by
  rw [isLogName, Bool.and_eq_true]
  exact ⟨Text.startsWith_iff.2 ⟨_, rfl⟩,
    Text.endsWith_iff.2 ⟨"bench-".toList ++ List.replicate size 'x', by simp [unmarked, logEnd]⟩⟩

theorem mem_filler {c : Char} {size : Nat} (h : c ∈ List.replicate size 'x' ++ ".txt".toList) :
    c ∈ "x.t".toList := by
  rcases List.mem_append.1 h with h | h
  · rw [List.eq_of_mem_replicate h]
    decide
  · have hend : ".txt".toList ⊆ "x.t".toList := by decide
    exact hend h

theorem byteLength_unmarked (size : Nat) : Text.byteLength (unmarked size) = size + 10 := by
  have hascii : Text.Ascii (unmarked size) := by
    have hbench : Text.Ascii ("bench".toList ++ ['-']) := by decide +kernel
    have hfiller : Text.Ascii "x.t".toList := by decide +kernel
    intro c hc
    rw [unmarked, List.append_cons] at hc
    rcases List.mem_append.1 hc with hc | hc
    · exact hbench c hc
    · exact hfiller c (mem_filler hc)
  rw [Text.byteLength_of_ascii hascii, unmarked, List.length_append, List.length_cons,
    List.length_append, List.length_replicate]
  change 5 + (size + 4 + 1) = size + 10
  omega

theorem offsetOf_unmarked {mark : List Char} (hmark : mark ∈ [intensityMark, readMark, hitMark])
    (size : Nat) : Text.offsetOf mark (unmarked size) = -1 := by
  obtain ⟨rest, rfl, -, -, -⟩ := dash_cons_of_mark hmark
  have hdash : '-' ∉ List.replicate size 'x' ++ ".txt".toList := fun h =>
    absurd (mem_filler h) (by decide)
  have hrest : ¬rest ⊆ "x.t".toList := by
    have hmarks : ∀ mark ∈ [intensityMark, readMark, hitMark], ¬mark.tail ⊆ "x.t".toList := by
      decide +kernel
    exact hmarks _ hmark
  have hnone : ¬ ('-' :: rest <:+: unmarked size) := by
    rw [unmarked, Text.infix_append_iff_of_not_mem (by decide), List.infix_cons_iff,
      List.cons_prefix_cons]
    rintro (⟨-, hstarts⟩ | hinside)
    · exact hrest fun c hc => mem_filler (hstarts.subset hc)
    · exact hdash (hinside.subset List.mem_cons_self)
  rw [Text.offsetOf, Text.cut_eq_none_iff.2 hnone]

theorem lastOffsetOf_unmarked (size : Nat) :
    Text.lastOffsetOf modeMark (unmarked size) = 5 :=
  Text.lastOffsetOf_append (fun h => absurd (mem_filler h) (by decide)) "bench".toList

theorem offsetOf_logEnd_unmarked (size : Nat) :
    Text.offsetOf logEnd (unmarked size) = (size + 6 : Nat) := by
  have hsplit : "bench-".toList ++ List.replicate size 'x' ++ logEnd = unmarked size := by
    simp [unmarked, logEnd]
  have hlength := Text.byteLength_append ("bench-".toList ++ List.replicate size 'x') logEnd
  have hend : Text.byteLength logEnd = 4 := by decide +kernel
  rw [hsplit, byteLength_unmarked, hend] at hlength
  have hdot : '.' ∉ "bench-".toList ++ List.replicate size 'x' := by
    rw [List.mem_append, List.mem_replicate]
    rintro (h | ⟨-, h⟩)
    · exact absurd h (by decide)
    · cases h
  have honce : Text.StartsOnce logEnd := by decide +kernel
  have hmem : '.' ∈ logEnd := by decide +kernel
  obtain ⟨before, hoffset, -, hinside | ⟨-, rfl⟩⟩ :=
    Text.offsetOf_cases honce ⟨[], (List.append_nil _).trans hsplit⟩
  · exact absurd (hinside.1.subset hmem) hdot
  · rw [hoffset]
    omega

/-- For each length there is a name whose artifacts have the longest names. -/
theorem length_artifactFile_unmarked (size : Nat) (format : Artifact.Format) :
    ((ofFileName (unmarked size)).artifactFile format).length =
      3 * (Text.encode (unmarked size)).length + 6 := by
  have hclamp : ∀ n : Nat, n ≤ size + 10 → Text.clampOffset (size + 10) n = n :=
    fun _ => Text.clampOffset_natCast
  have hthree : Text.clampOffset (size + 10) (-1 + 4) = 3 := hclamp 3 (by omega)
  have hfour : Text.clampOffset (size + 10) (-1 + 5) = 4 := hclamp 4 (by omega)
  have hfive : Text.clampOffset (size + 10) 5 = 5 := hclamp 5 (by omega)
  have hsix : Text.clampOffset (size + 10) (5 + 1) = 6 := hclamp 6 (by omega)
  rw [length_artifactFile_eq (isLogName_unmarked size), Text.length_encode]
  simp only [pieceLengths, offsetOf_unmarked, List.mem_cons, true_or, or_true,
    lastOffsetOf_unmarked, offsetOf_logEnd_unmarked, byteLength_unmarked, Text.clampOffset_neg_one,
    hthree, hfour, hfive, hsix, hclamp (size + 6) (by omega)]
  omega

end Unmarked

end Run

end BenchChart
