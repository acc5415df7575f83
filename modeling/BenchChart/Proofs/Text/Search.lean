import BenchChart.Text.Search

/-!
# First occurrences

What a cut says about a text: it succeeds exactly when the literal occurs, and what stands before
the literal is then as short as it can be. What stands after the first occurrence ends with what
stands after any other one, which is why the first occurrence never costs a later match.
-/

namespace BenchChart

namespace Text

theorem after?_append (lit rest : List Char) : after? lit (lit ++ rest) = some rest :=
  after?_eq_some_iff.2 rfl

theorem after?_eq_none_iff {lit cs : List Char} : after? lit cs = none ↔ ¬ lit <+: cs := by
  constructor
  · rintro h ⟨rest, rfl⟩
    rw [after?_append] at h
    cases h
  · intro h
    cases hr : after? lit cs with
    | none => rfl
    | some rest => exact absurd ⟨rest, (after?_eq_some_iff.1 hr).symm⟩ h

theorem startsWith_iff {lit cs : List Char} : startsWith lit cs = true ↔ lit <+: cs := by
  rw [startsWith, ← Option.ne_none_iff_isSome, Ne, after?_eq_none_iff, Classical.not_not]

theorem endsWith_iff {lit cs : List Char} : endsWith lit cs = true ↔ lit <:+ cs := by
  rw [endsWith, startsWith_iff, List.reverse_prefix]

theorem cut_cons_of_some {lit cs rest : List Char} {c : Char}
    (h : after? lit (c :: cs) = some rest) : cut lit (c :: cs) = some ([], rest) := by
  simp [cut, h]

theorem cut_cons_of_none {lit cs : List Char} {c : Char} (h : after? lit (c :: cs) = none) :
    cut lit (c :: cs) = (cut lit cs).map fun (before, rest) => (c :: before, rest) := by
  simp [cut, h]

/-- A literal that occurs is found, and no occurrence has less before it. -/
theorem exists_cut_of_eq {lit : List Char} (cs before' rest' : List Char)
    (h : cs = before' ++ lit ++ rest') :
    ∃ before rest, cut lit cs = some (before, rest) ∧ before.length ≤ before'.length := by
  induction cs generalizing before' with
  | nil =>
      have hl : lit = [] := by simp_all
      exact ⟨[], [], by simp [cut, hl, after?], by simp⟩
  | cons c cs ih =>
      cases ha : after? lit (c :: cs) with
      | some rest => exact ⟨[], rest, cut_cons_of_some ha, by simp⟩
      | none =>
          rw [cut_cons_of_none ha]
          cases before' with
          | nil =>
              rw [h, List.nil_append, after?_append] at ha
              cases ha
          | cons d before' =>
              have ht : cs = before' ++ lit ++ rest' := by simp_all
              obtain ⟨before, rest, hc, hle⟩ := ih before' ht
              exact ⟨c :: before, rest, by rw [hc]; rfl, by simpa using hle⟩

theorem cut_eq_none_iff {lit cs : List Char} : cut lit cs = none ↔ ¬ lit <:+: cs := by
  constructor
  · rintro h ⟨before, rest, he⟩
    obtain ⟨_, _, hc, -⟩ := exists_cut_of_eq cs before rest he.symm
    rw [h] at hc
    cases hc
  · intro h
    cases hc : cut lit cs with
    | none => rfl
    | some found => exact absurd ⟨found.1, found.2, (eq_of_cut hc).symm⟩ h

theorem occurs_iff {lit cs : List Char} : occurs lit cs = true ↔ lit <:+: cs := by
  rw [occurs, ← Option.ne_none_iff_isSome, Ne, cut_eq_none_iff, Classical.not_not]

/-- Nothing shorter than what a cut returns stands before the literal. -/
theorem length_le_of_cut {lit cs before rest before' rest' : List Char}
    (hc : cut lit cs = some (before, rest)) (h : cs = before' ++ lit ++ rest') :
    before.length ≤ before'.length := by
  obtain ⟨b, r, hc', hle⟩ := exists_cut_of_eq cs before' rest' h
  rw [hc] at hc'
  cases hc'
  exact hle

/-- What stands after any occurrence of a literal ends what stands after the first one. -/
theorem suffix_of_cut {lit cs before rest before' rest' : List Char}
    (hc : cut lit cs = some (before, rest)) (h : cs = before' ++ lit ++ rest') :
    rest' <:+ rest := by
  have hle := length_le_of_cut hc h
  have hcs := eq_of_cut hc
  have hlen := congrArg List.length (hcs.symm.trans h)
  simp only [List.length_append] at hlen
  refine List.suffix_of_suffix_length_le ⟨before' ++ lit, h.symm⟩ ⟨before ++ lit, hcs.symm⟩ ?_
  omega

/-- A cut is the split of a text at a literal with the least text before it. -/
theorem cut_eq_some_iff {lit cs before rest : List Char} :
    cut lit cs = some (before, rest) ↔
      cs = before ++ lit ++ rest ∧
        ∀ before' rest', cs = before' ++ lit ++ rest' → before.length ≤ before'.length := by
  constructor
  · intro hc
    exact ⟨eq_of_cut hc, fun _ _ => length_le_of_cut hc⟩
  · rintro ⟨h, hleast⟩
    obtain ⟨b, r, hc, hle⟩ := exists_cut_of_eq cs before rest h
    have hb := hleast b r (eq_of_cut hc)
    have heq : before ++ (lit ++ rest) = b ++ (lit ++ r) := by
      simpa [List.append_assoc] using h.symm.trans (eq_of_cut hc)
    obtain ⟨hbefore, hrest⟩ := List.append_inj heq (Nat.le_antisymm hb hle)
    rw [hc, hbefore, List.append_cancel_left hrest]

end Text

end BenchChart
