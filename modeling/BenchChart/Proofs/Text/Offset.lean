import BenchChart.Proofs.Text.Joint
import BenchChart.Proofs.Text.Slice

/-!
# Where a literal is found

A literal that was put somewhere in a text is found there or before, and its last occurrence there
or after. `offsetOf_cases` and `lastOffsetOf_cases` say which, and that what stands before the place
is a text that the whole starts with.
-/

namespace BenchChart

namespace Text

theorem cut_append_right {lit cs before rest : List Char} (h : cut lit cs = some (before, rest))
    (more : List Char) : cut lit (cs ++ more) = some (before, rest ++ more) := by
  obtain ⟨rfl, hfirst⟩ := cut_eq_some_iff.1 h
  refine cut_eq_some_iff.2 ⟨by simp, ?_⟩
  intro before' rest' hsplit
  rcases Nat.lt_or_ge before'.length before.length with hlt | hle
  · -- An earlier occurrence would end before the first text does.
    have hbegin : before' ++ lit <+: before ++ lit ++ rest := by
      apply List.prefix_of_prefix_length_le ⟨rest', hsplit.symm⟩ (List.prefix_append _ more)
      simp only [List.length_append]
      omega
    obtain ⟨later, hlater⟩ := hbegin
    exact hfirst before' later hlater.symm
  · exact hle

theorem offsetOf_of_cut {lit cs before rest : List Char} (h : cut lit cs = some (before, rest)) :
    offsetOf lit cs = byteLength before := by
  rw [offsetOf, h]

/-- A literal that does not overlap itself is found where it was put or before. -/
theorem offsetOf_cases {lit piece cs : List Char} (hlit : StartsOnce lit)
    (h : piece ++ lit <+: cs) :
    ∃ before, offsetOf lit cs = byteLength before ∧ before ++ lit <+: cs ∧
      (lit <:+: piece ∧ byteLength (before ++ lit) ≤ byteLength piece ∨
        ¬ lit <:+: piece ∧ before = piece) := by
  by_cases hpiece : lit <:+: piece
  · obtain ⟨front, back, hsplit⟩ := hpiece
    obtain ⟨before, after, hcut, _⟩ := exists_cut_of_eq piece front back hsplit.symm
    have hbegin : before ++ lit <+: piece := ⟨after, (eq_of_cut hcut).symm⟩
    obtain ⟨more, rfl⟩ := (List.prefix_append piece lit).trans h
    refine ⟨before, offsetOf_of_cut (cut_append_right hcut more), ?_,
      .inl ⟨⟨front, back, hsplit⟩, byteLength_le_of_isPrefix hbegin⟩⟩
    exact hbegin.trans (List.prefix_append piece more)
  · refine ⟨piece, ?_, h, .inr ⟨hpiece, rfl⟩⟩
    obtain ⟨rest, rfl⟩ := h
    exact offsetOf_of_cut (cut_append hlit hpiece rest)

theorem lastOffsetOf_append {c : Char} {back : List Char} (h : c ∉ back) (front : List Char) :
    lastOffsetOf [c] (front ++ c :: back) = byteLength front := by
  have hback : c ∉ back.reverse := fun hmem => h (List.mem_reverse.1 hmem)
  have hcut : cutLast [c] (front ++ c :: back) = some (front, back) := by
    rw [cutLast, List.reverse_singleton, List.reverse_append, List.reverse_cons,
      cut_append_of_not_mem hback]
    simp
  rw [lastOffsetOf, hcut]

/-- The last occurrence of a character is where it was put or after. -/
theorem lastOffsetOf_cases (c : Char) (front back : List Char) :
    ∃ before, lastOffsetOf [c] (front ++ c :: back) = byteLength before ∧
      before ++ [c] <+: front ++ c :: back ∧
      (c ∈ back ∧ byteLength (front ++ [c]) ≤ byteLength before ∨ c ∉ back ∧ before = front) := by
  by_cases h : c ∈ back
  · obtain ⟨after, middle, hsplit, hafter⟩ := List.eq_append_cons_of_mem (List.mem_reverse.2 h)
    have hback : back = middle.reverse ++ c :: after.reverse := by
      rw [← List.reverse_reverse back, hsplit]
      simp
    have hwhole : front ++ c :: back = (front ++ c :: middle.reverse) ++ c :: after.reverse := by
      simp [hback]
    refine ⟨front ++ c :: middle.reverse, ?_, ?_, .inl ⟨h, ?_⟩⟩
    · rw [hwhole, lastOffsetOf_append fun hmem => hafter (List.mem_reverse.1 hmem)]
    · exact ⟨after.reverse, by simp [hwhole]⟩
    · exact byteLength_le_of_isPrefix ⟨middle.reverse, by simp⟩
  · exact ⟨front, lastOffsetOf_append h front, ⟨back, by simp⟩, .inr ⟨h, rfl⟩⟩

end Text

end BenchChart
