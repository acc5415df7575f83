import BenchChart.Proofs.Text.Lines
import BenchChart.Text.Blank

/-!
# Blanks at the ends of a text

Trimming takes away the blanks around a text, and nothing of a text whose ends are no blanks. A
carriage return is a blank, so a line that is trimmed is the same for either kind of line end.
-/

namespace BenchChart

namespace Text

variable {cs : List Char}

theorem trimStart_blank_append {blanks : List Char} (h : ∀ c ∈ blanks, isBlank c = true)
    (cs : List Char) : trimStart (blanks ++ cs) = trimStart cs :=
  List.dropWhile_append_of_pos h

theorem trimStart_of_blank (h : ∀ c ∈ cs, isBlank c = true) : trimStart cs = [] := by
  have happend := trimStart_blank_append h []
  rwa [List.append_nil] at happend

theorem trimEnd_append_blank {blanks : List Char} (h : ∀ c ∈ blanks, isBlank c = true)
    (cs : List Char) : trimEnd (cs ++ blanks) = trimEnd cs := by
  have hreverse : ∀ c ∈ blanks.reverse, isBlank c = true := by simpa using h
  rw [trimEnd, List.reverse_append, trimStart_blank_append hreverse, trimEnd]

theorem trim_blank_append {blanks : List Char} (h : ∀ c ∈ blanks, isBlank c = true)
    (cs : List Char) : trim (blanks ++ cs) = trim cs := by
  rw [trim, trimStart_blank_append h, trim]

theorem trim_append_blank {blanks : List Char} (h : ∀ c ∈ blanks, isBlank c = true)
    (cs : List Char) : trim (cs ++ blanks) = trim cs := by
  rw [trim, trim, trimStart, List.dropWhile_append]
  split
  · next hempty =>
      have hstart : trimStart cs = [] := List.isEmpty_iff.1 hempty
      have hblanks : blanks.dropWhile isBlank = [] := trimStart_of_blank h
      rw [hblanks, hstart]
  · exact trimEnd_append_blank h _

theorem trim_eq_self (hfirst : ∀ c, cs.head? = some c → isBlank c = false)
    (hlast : ∀ c, cs.getLast? = some c → isBlank c = false) : trim cs = cs := by
  have hstart : ∀ ds : List Char, (∀ c, ds.head? = some c → isBlank c = false) →
      trimStart ds = ds := by
    intro ds hds
    cases ds with
    | nil => rfl
    | cons c ds => exact trimStart_cons_of_not_blank (hds c rfl) ds
  rw [trim, hstart cs hfirst, trimEnd, hstart cs.reverse, List.reverse_reverse]
  rwa [List.head?_reverse]

theorem trim_of_not_blank (h : ∀ c ∈ cs, isBlank c = false) : trim cs = cs :=
  trim_eq_self (fun c hc => h c (List.mem_of_head? hc)) fun c hc => h c (List.mem_of_getLast? hc)

theorem trim_stripReturn (line : List Char) : trim (stripReturn line) = trim line := by
  by_cases hreturn : line.getLast? = some '\r'
  · obtain ⟨front, rfl⟩ := List.getLast?_eq_some_iff.1 hreturn
    have hblank : ∀ c ∈ ['\r'], isBlank c = true := by simp [isBlank]
    rw [stripReturn_append_return, trim_append_blank hblank]
  · rw [stripReturn_of_bare hreturn]

end Text

end BenchChart
