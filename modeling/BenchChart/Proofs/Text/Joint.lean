import BenchChart.Proofs.Text.Search

/-!
# Occurrences at a joint

Where texts are put together, a literal can come to stand across the joint. It cannot if the
character after the joint is none of its later ones. In particular a literal whose first character
does not come again in it never overlaps itself: `cut_append` finds it where it was put unless it
occurs before.
-/

namespace BenchChart

namespace Text

/-- The first character of the literal does not come again in it. -/
def StartsOnce : List Char → Prop
  | [] => False
  | c :: tail => c ∉ tail

instance : DecidablePred StartsOnce
  | [] => inferInstanceAs (Decidable False)
  | c :: tail => inferInstanceAs (Decidable (c ∉ tail))

theorem infix_append_iff_of_not_mem {c : Char} {tail front : List Char} (h : c ∉ front)
    (back : List Char) : c :: tail <:+: front ++ back ↔ c :: tail <:+: back := by
  induction front with
  | nil => rfl
  | cons d front ih =>
      obtain ⟨hd, hfront⟩ : c ≠ d ∧ c ∉ front := by simpa using h
      rw [List.cons_append, List.infix_cons_iff, ih hfront, List.cons_prefix_cons]
      simp [hd]

theorem infix_append_cons_iff {lit : List Char} {c : Char} (h : c ∉ lit.tail)
    (front back : List Char) :
    lit <:+: front ++ c :: back ↔ lit <:+: front ∨ lit <:+: c :: back := by
  constructor
  · intro hlit
    rcases List.infix_append_iff_ne_nil.1 hlit with hfront | hback |
      ⟨before, after, hbefore, hafter, rfl, _, hbegin⟩
    · exact .inl hfront
    · exact .inr hback
    · -- The part after the joint starts with `c`, and it is not the whole literal.
      obtain ⟨d, before, rfl⟩ := List.exists_cons_of_ne_nil hbefore
      obtain ⟨e, after, rfl⟩ := List.exists_cons_of_ne_nil hafter
      obtain ⟨rfl, _⟩ := List.cons_prefix_cons.1 hbegin
      simp at h
  · rintro (hfront | hback)
    · exact hfront.trans (List.infix_append_left ..)
    · exact hback.trans (List.infix_append_right ..)

theorem prefix_append_cons_iff {lit : List Char} {c : Char} (h : c ∉ lit) (front back : List Char) :
    lit <+: front ++ c :: back ↔ lit <+: front := by
  constructor
  · rintro ⟨rest, hrest⟩
    rcases List.append_eq_append_iff.1 hrest with ⟨more, hfront, _⟩ | ⟨more, rfl, hmore⟩
    · exact ⟨more, hfront.symm⟩
    · cases more with
      | nil => simp
      | cons e more =>
          obtain ⟨rfl, _⟩ := List.cons.inj hmore
          simp at h
  · intro hlit
    exact hlit.trans (List.prefix_append ..)

/-- A literal is found where it was put if its first character does not come before. -/
theorem cut_append_of_not_mem {c : Char} {piece : List Char} (h : c ∉ piece)
    (tail rest : List Char) :
    cut (c :: tail) (piece ++ c :: tail ++ rest) = some (piece, rest) := by
  induction piece with
  | nil => exact cut_cons_of_some (after?_append (c :: tail) rest)
  | cons d piece ih =>
      obtain ⟨hd, hpiece⟩ : c ≠ d ∧ c ∉ piece := by simpa using h
      have hafter : after? (c :: tail) (d :: (piece ++ c :: tail ++ rest)) = none := by
        rw [after?, if_neg hd]
      rw [List.cons_append, List.cons_append, cut_cons_of_none hafter, ih hpiece]
      rfl

theorem cut_append_of_head? {lit piece : List Char} {c : Char} (hlit : lit.head? = some c)
    (h : c ∉ piece) (rest : List Char) : cut lit (piece ++ lit ++ rest) = some (piece, rest) := by
  obtain ⟨tail, rfl⟩ := List.head?_eq_some_iff.1 hlit
  exact cut_append_of_not_mem h tail rest

/-- A literal that does not overlap itself is found where it was put if it does not occur before. -/
theorem cut_append {lit piece : List Char} (hlit : StartsOnce lit) (h : ¬ lit <:+: piece)
    (rest : List Char) : cut lit (piece ++ lit ++ rest) = some (piece, rest) := by
  cases lit with
  | nil => exact hlit.elim
  | cons c tail =>
      have hc : c ∉ tail := hlit
      induction piece with
      | nil => exact cut_cons_of_some (after?_append (c :: tail) rest)
      | cons d piece ih =>
          rw [List.infix_cons_iff, not_or] at h
          have hafter : after? (c :: tail) (d :: (piece ++ c :: tail ++ rest)) = none := by
            rw [after?_eq_none_iff, List.append_assoc, List.cons_append, List.cons_prefix_cons,
              prefix_append_cons_iff hc, ← List.cons_prefix_cons]
            exact h.1
          rw [List.cons_append, List.cons_append, cut_cons_of_none hafter, ih h.2]
          rfl

end Text

end BenchChart
