import BenchChart.Proofs.Run
import BenchChart.Proofs.Text.Index
import Mathlib.Data.List.Forall2

/-!
# Reading parameters character by character

The parameters are read off a name by byte offsets. `pieces` reads them off any sequence by the
indices of its items, where a mark that is missing has the index `-1` and an index below zero is
counted from the end. On the bytes of a log's name and on its characters this gives the same, and
what `ofFileName` gives. For a mark that is found this is a matter of counting. One that is missing
puts a cut near the start of the name or before its last character, and there a log's name has
characters of one byte only.
-/

namespace BenchChart

namespace Run

def texts (run : Run) : List (List Char) :=
  [run.intensity.toList, run.readPercentage.toList, run.hitRatio.toList, run.mode.toList]

section Pieces

variable {α : Type} [BEq α] (written : List Char → List α)

/-- The indices at which each parameter starts and stops. -/
def cuts (name : List α) : List (Int × Int) :=
  let intensity := Text.indexOf (written intensityMark) name
  let read := Text.indexOf (written readMark) name
  let hit := Text.indexOf (written hitMark) name
  let mode := Text.lastIndexOf (written modeMark) name
  let stop := Text.indexOf (written logEnd) name
  [(intensity + 4, read), (read + 5, hit), (hit + 4, mode), (mode + 1, stop)]

def pieces (name : List α) : List (List α) :=
  (cuts written name).map fun cut => Text.between name cut.1 cut.2

end Pieces

theorem exists_of_isLogName {name : List Char} (h : isLogName name = true) :
    logStart <+: name ∧ ∃ front, name = front ++ ['t'] := by
  have hlast := List.getLast?_eq_some_iff.1 (getLast?_of_isLogName h)
  rw [isLogName, Bool.and_eq_true] at h
  exact ⟨Text.startsWith_iff.1 h.1, hlast⟩

section Mark

variable {name lit : List Char} {offset index : Int} (hmark : Text.Mark lit name offset index)
  (hname : isLogName name = true)

include hmark hname

theorem samePlace_of_mark : Text.SamePlace name offset index := by
  cases hmark with
  | absent =>
      obtain ⟨_, front, rfl⟩ := exists_of_isLogName hname
      exact .neg_one (by decide)
  | found before hbegin => exact .of_isPrefix ((List.prefix_append ..).trans hbegin)

/-- The same end of a character comes after a mark, also where one that is missing would end. -/
theorem samePlace_after_mark (hlit : Text.Ascii lit) {n : Nat} (hlength : lit.length = n + 1)
    (hn : n ≤ logStart.length) : Text.SamePlace name (offset + (n + 1)) (index + (n + 1)) := by
  cases hmark with
  | absent =>
      have hplace : Text.SamePlace name n n :=
        .of_ascii (exists_of_isLogName hname).1 (by decide +kernel) hn
      rwa [show (-1 : Int) + (n + 1) = n by omega]
  | found before hbegin =>
      have hplace := Text.SamePlace.of_isPrefix hbegin
      rwa [Text.byteLength_append, Text.byteLength_of_ascii hlit, List.length_append, hlength,
        Int.natCast_add, Int.natCast_add, Int.natCast_succ] at hplace

end Mark

theorem marks_ascii : ∀ mark ∈ [intensityMark, readMark, hitMark, modeMark, logEnd],
    Text.Ascii mark ∧ mark ≠ [] := by
  decide +kernel

/-- On the bytes of a text, marks have the offsets that they have in the text. -/
theorem cuts_encode (name : List Char) :
    cuts Text.encode (Text.encode name) =
      [(Text.offsetOf intensityMark name + 4, Text.offsetOf readMark name),
        (Text.offsetOf readMark name + 5, Text.offsetOf hitMark name),
        (Text.offsetOf hitMark name + 4, Text.lastOffsetOf modeMark name),
        (Text.lastOffsetOf modeMark name + 1, Text.offsetOf logEnd name)] := by
  have hfirst : ∀ mark ∈ [intensityMark, readMark, hitMark, modeMark, logEnd],
      Text.indexOf (Text.encode mark) (Text.encode name) = Text.offsetOf mark name := by
    intro mark hmem
    obtain ⟨hascii, hne⟩ := marks_ascii mark hmem
    exact (Text.indexOf_encode hascii hne name).1
  obtain ⟨hascii, hne⟩ := marks_ascii modeMark (by simp)
  rw [cuts, hfirst intensityMark (by simp), hfirst readMark (by simp), hfirst hitMark (by simp),
    hfirst logEnd (by simp), (Text.lastIndexOf_encode hascii hne name).1]

theorem texts_ofFileName (name : List Char) :
    (ofFileName name).texts =
      (cuts Text.encode (Text.encode name)).map fun cut => Text.slice name cut.1 cut.2 := by
  rw [cuts_encode]
  simp only [texts, ofFileName, String.toList_ofList, List.map_cons, List.map_nil]

/-- Two cuts, one counted in bytes and one in characters, that take out the same. -/
def SameCut (name : List Char) (bytes chars : Int × Int) : Prop :=
  Text.SamePlace name bytes.1 chars.1 ∧ Text.SamePlace name bytes.2 chars.2

theorem sameCut_cuts {name : List Char} (h : isLogName name = true) :
    List.Forall₂ (SameCut name) (cuts Text.encode (Text.encode name)) (cuts id name) := by
  have hfirst : ∀ mark ∈ [intensityMark, readMark, hitMark, modeMark, logEnd],
      Text.Mark mark name (Text.indexOf (Text.encode mark) (Text.encode name))
        (Text.indexOf mark name) := by
    intro mark hmem
    obtain ⟨hascii, hne⟩ := marks_ascii mark hmem
    obtain ⟨hbytes, hmark⟩ := Text.indexOf_encode hascii hne name
    rwa [hbytes]
  have hlast : Text.Mark modeMark name
      (Text.lastIndexOf (Text.encode modeMark) (Text.encode name))
      (Text.lastIndexOf modeMark name) := by
    obtain ⟨hascii, hne⟩ := marks_ascii modeMark (by simp)
    obtain ⟨hbytes, hmark⟩ := Text.lastIndexOf_encode hascii hne name
    rwa [hbytes]
  have hintensity := hfirst intensityMark (by simp)
  have hread := hfirst readMark (by simp)
  have hhit := hfirst hitMark (by simp)
  have hend := hfirst logEnd (by simp)
  refine .cons ⟨?_, samePlace_of_mark hread h⟩ (.cons ⟨?_, samePlace_of_mark hhit h⟩
    (.cons ⟨?_, samePlace_of_mark hlast h⟩ (.cons ⟨?_, samePlace_of_mark hend h⟩ .nil)))
  · have hascii := (marks_ascii intensityMark (by simp)).1
    exact samePlace_after_mark hintensity h hascii (n := 3) rfl (by decide +kernel)
  · have hascii := (marks_ascii readMark (by simp)).1
    exact samePlace_after_mark hread h hascii (n := 4) rfl (by decide +kernel)
  · have hascii := (marks_ascii hitMark (by simp)).1
    exact samePlace_after_mark hhit h hascii (n := 3) rfl (by decide +kernel)
  · have hascii := (marks_ascii modeMark (by simp)).1
    exact samePlace_after_mark hlast h hascii (n := 0) rfl (by decide +kernel)

theorem map_slice_of_sameCut {name : List Char} {bytes chars : List (Int × Int)}
    (h : List.Forall₂ (SameCut name) bytes chars) :
    (bytes.map fun cut => Text.slice name cut.1 cut.2) =
        chars.map (fun cut => Text.between name cut.1 cut.2) ∧
      ((bytes.map fun cut => Text.slice name cut.1 cut.2).map Text.encode) =
        bytes.map fun cut => Text.between (Text.encode name) cut.1 cut.2 := by
  induction h with
  | nil => exact ⟨rfl, rfl⟩
  | cons hcut _ ih =>
      obtain ⟨hchars, hbytes⟩ := Text.slice_eq_between hcut.1 hcut.2
      exact ⟨congrArg₂ List.cons hchars ih.1, congrArg₂ List.cons hbytes ih.2⟩

/-- Parameters read off the name of a log by byte offsets are those read off its bytes, and those
read off its characters. Every cut, be it of a mark that is missing or out of order, comes at an end
of a character, and at the same one whether bytes or characters are counted. -/
theorem ofFileName_by_index {name : List Char} (h : isLogName name = true) :
    (ofFileName name).texts = pieces id name ∧
      (ofFileName name).texts.map Text.encode = pieces Text.encode (Text.encode name) ∧
      List.Forall₂ (SameCut name) (cuts Text.encode (Text.encode name)) (cuts id name) := by
  have hcuts := sameCut_cuts h
  have hslice := map_slice_of_sameCut hcuts
  rw [← texts_ofFileName] at hslice
  exact ⟨hslice.1, hslice.2, hcuts⟩

/-- A mark is missing, two are out of order and one comes twice. -/
theorem ofFileName_by_index_of_mixed_marks :
    isLogName "bench-é-hité–ü-readß-ü-hit√.txt".toList = true ∧
      (ofFileName "bench-é-hité–ü-readß-ü-hit√.txt".toList).texts =
        pieces id "bench-é-hité–ü-readß-ü-hit√.txt".toList ∧
      pieces id "bench-é-hité–ü-readß-ü-hit√.txt".toList =
        ["ch-é-hité–ü".toList, [], "é–ü-readß-ü".toList, "hit√".toList] := by
  have hname : isLogName "bench-é-hité–ü-readß-ü-hit√.txt".toList = true := by decide +kernel
  exact ⟨hname, (ofFileName_by_index hname).1, by decide +kernel⟩

end Run

end BenchChart
