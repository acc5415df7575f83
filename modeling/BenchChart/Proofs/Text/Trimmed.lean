import BenchChart.Proofs.Text.Blank
import BenchChart.Proofs.Text.Joint

/-!
# Literals that trimming cuts

Trimming the end of a text cuts off no part of what stands before its last character that is no
blank. A literal whose only blank at the end is a space can lose this space: `EndCut` says that it
does. Any other occurrence of it in the text is one in the trimmed text.
-/

namespace BenchChart

namespace Text

variable {lit cs ds : List Char}

/-- The literal ends with a space, and the text has it there where its last blanks start. -/
def EndCut (lit cs : List Char) : Prop :=
  ∃ front, lit = front ++ [' '] ∧ front <:+ trimEnd cs ∧ trimEnd cs ++ [' '] <+: cs

/-- A literal with some character that is no blank, and with no blank after its last such character
but a single space. -/
def EndsBare (lit : List Char) : Prop :=
  trimEnd lit ≠ [] ∧ (lit = trimEnd lit ∨ lit = trimEnd lit ++ [' '])

instance : DecidablePred EndsBare := fun _ => inferInstanceAs (Decidable (_ ∧ _))

theorem exists_blank_append_trimStart (cs : List Char) :
    ∃ blanks, cs = blanks ++ trimStart cs ∧ ∀ c ∈ blanks, isBlank c = true :=
  ⟨cs.takeWhile isBlank, List.takeWhile_append_dropWhile.symm,
    List.all_eq_true.1 List.all_takeWhile⟩

theorem exists_append_trimEnd (cs : List Char) :
    ∃ blanks, cs = trimEnd cs ++ blanks ∧ ∀ c ∈ blanks, isBlank c = true := by
  obtain ⟨blanks, hcs, hblanks⟩ := exists_blank_append_trimStart cs.reverse
  refine ⟨blanks.reverse, ?_, by simpa using hblanks⟩
  rw [trimEnd, ← List.reverse_append, ← hcs, List.reverse_reverse]

theorem trimEnd_append (h : trimEnd ds ≠ []) (cs : List Char) :
    trimEnd (cs ++ ds) = cs ++ trimEnd ds := by
  have hds : trimStart ds.reverse ≠ [] := by simpa [trimEnd] using h
  rw [trimEnd, trimEnd, List.reverse_append, trimStart, List.dropWhile_append]
  rw [trimStart] at hds
  simp [hds, trimStart]

theorem blank_of_trimEnd_eq_nil (h : trimEnd cs = []) : ∀ c ∈ cs, isBlank c = true := by
  obtain ⟨blanks, hcs, hblanks⟩ := exists_append_trimEnd cs
  rw [h, List.nil_append] at hcs
  rwa [hcs]

theorem trimEnd_isPrefix (cs : List Char) : trimEnd cs <+: cs := by
  obtain ⟨blanks, hcs, _⟩ := exists_append_trimEnd cs
  exact ⟨blanks, hcs.symm⟩

/-- Where a literal stands in a text, it stands in the trimmed text, or its last space is cut. -/
theorem trimEnd_of_append (hlit : EndsBare lit) (before after : List Char) :
    (∃ rest, trimEnd (before ++ lit ++ after) = before ++ lit ++ rest) ∨
      lit = trimEnd lit ++ [' '] ∧ trimEnd (before ++ lit ++ after) = before ++ trimEnd lit ∧
        trimEnd (before ++ lit ++ after) ++ [' '] <+: before ++ lit ++ after := by
  by_cases hafter : trimEnd after = []
  · have htrim : trimEnd (before ++ lit ++ after) = before ++ trimEnd lit := by
      rw [trimEnd_append_blank (blank_of_trimEnd_eq_nil hafter), trimEnd_append hlit.1]
    rw [htrim]
    rcases hlit.2 with hbare | hspace
    · exact .inl ⟨[], by rw [← hbare, List.append_nil]⟩
    · refine .inr ⟨hspace, rfl, after, ?_⟩
      rw [List.append_assoc before, ← hspace]
  · exact .inl ⟨trimEnd after, trimEnd_append hafter _⟩

/-- A literal occurs in a text if it occurs in the trimmed text, or if trimming cuts it. -/
theorem infix_iff_trimEnd (hlit : EndsBare lit) :
    lit <:+: cs ↔ lit <:+: trimEnd cs ∨ EndCut lit cs := by
  constructor
  · rintro ⟨before, after, rfl⟩
    rcases trimEnd_of_append hlit before after with ⟨rest, htrim⟩ | ⟨hspace, htrim, hcut⟩
    · exact .inl ⟨before, rest, htrim.symm⟩
    · exact .inr ⟨trimEnd lit, hspace, ⟨before, htrim.symm⟩, hcut⟩
  · rintro (hocc | ⟨front, rfl, hfront, hcut⟩)
    · exact hocc.trans (trimEnd_isPrefix cs).isInfix
    · obtain ⟨before, hbefore⟩ := hfront
      refine List.IsInfix.trans ⟨before, [], ?_⟩ hcut.isInfix
      rw [← hbefore, List.append_nil, List.append_assoc]

/-- Blanks before a text have no part in a literal that lacks the text's first character. -/
theorem infix_iff_trimStart {c : Char} (hlit : trimEnd lit ≠ []) (hc : c ∉ lit)
    (hcs : (trimStart cs).head? = some c) : lit <:+: cs ↔ lit <:+: trimStart cs := by
  obtain ⟨blanks, happend, hblanks⟩ := exists_blank_append_trimStart cs
  obtain ⟨tail, htail⟩ := List.head?_eq_some_iff.1 hcs
  have htailless : c ∉ lit.tail := fun hmem => hc (List.mem_of_mem_tail hmem)
  have hunblank : ¬ lit <:+: blanks := by
    intro hocc
    have hblank : ∀ c ∈ lit, isBlank c = true := fun c hmem => hblanks c (hocc.subset hmem)
    exact hlit (by simpa using trimEnd_append_blank hblank [])
  rw [htail] at happend ⊢
  rw [happend, infix_append_cons_iff htailless, or_iff_right hunblank]

end Text

end BenchChart
