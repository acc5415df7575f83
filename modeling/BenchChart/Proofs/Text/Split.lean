import BenchChart.Text.Split

/-!
# Splitting and gluing

Splitting at a separator between two texts splits each of them. A text without the separator is one
piece, and no piece has a separator in it.
-/

namespace BenchChart

namespace Text

variable {α : Type} [BEq α]

theorem addToPieces_append (sep x : α) {pieces : List (List α)} (h : pieces ≠ [])
    (more : List (List α)) :
    addToPieces sep x (pieces ++ more) = addToPieces sep x pieces ++ more := by
  obtain ⟨piece, others, rfl⟩ := List.exists_cons_of_ne_nil h
  unfold addToPieces
  split <;> rfl

theorem split_append [LawfulBEq α] (sep : α) (xs ys : List α) :
    split sep (xs ++ sep :: ys) = split sep xs ++ split sep ys := by
  induction xs with
  | nil => rw [List.nil_append, split_sep_cons, split_nil, List.singleton_append]
  | cons x xs ih =>
      rw [List.cons_append, split_cons, split_cons, ih,
        addToPieces_append sep x (split_ne_nil sep xs)]

theorem split_cons_of_sep {sep x : α} (h : x == sep) (xs : List α) :
    split sep (x :: xs) = [] :: split sep xs := by
  simp [split_cons, addToPieces, h]

theorem split_cons_of_cons {sep x : α} (h : ¬x == sep) {xs piece : List α}
    {others : List (List α)} (hxs : split sep xs = piece :: others) :
    split sep (x :: xs) = (x :: piece) :: others := by
  simp [split_cons, addToPieces, h, hxs]

/-- What is appended to a text continues its last piece. -/
theorem exists_split_append (sep : α) (xs : List α) :
    ∃ front last, split sep xs = front ++ [last] ∧ ∀ {ys first back},
      split sep ys = first :: back → split sep (xs ++ ys) = front ++ (last ++ first) :: back := by
  induction xs with
  | nil => exact ⟨[], [], rfl, fun h => h⟩
  | cons x xs ih =>
      obtain ⟨front, last, hxs, happend⟩ := ih
      by_cases hx : x == sep
      · refine ⟨[] :: front, last, ?_, fun h => ?_⟩
        · rw [split_cons_of_sep hx, hxs, List.cons_append]
        · rw [List.cons_append, split_cons_of_sep hx, happend h, List.cons_append]
      · cases front with
        | nil => exact ⟨[], x :: last, split_cons_of_cons hx hxs,
            fun h => split_cons_of_cons hx (happend h)⟩
        | cons piece front => exact ⟨(x :: piece) :: front, last, split_cons_of_cons hx hxs,
            fun h => split_cons_of_cons hx (happend h)⟩

theorem split_of_not_mem [LawfulBEq α] {sep : α} {xs : List α} (h : sep ∉ xs) :
    split sep xs = [xs] := by
  induction xs with
  | nil => rfl
  | cons x xs ih =>
      obtain ⟨hx, hxs⟩ : sep ≠ x ∧ sep ∉ xs := by simpa using h
      rw [split_cons, ih hxs, addToPieces, if_neg (by simpa using hx.symm)]

theorem split_append_of_not_mem [LawfulBEq α] {sep : α} {xs ys first : List α}
    {back : List (List α)} (hxs : sep ∉ xs) (hys : split sep ys = first :: back) :
    split sep (xs ++ ys) = (xs ++ first) :: back := by
  obtain ⟨front, last, hsplit, happend⟩ := exists_split_append sep xs
  obtain ⟨rfl, rfl⟩ : front = [] ∧ last = xs := by
    simpa [split_of_not_mem hxs, List.singleton_eq_append_iff, eq_comm] using hsplit
  exact happend hys

theorem length_split (sep : α) (xs : List α) :
    (split sep xs).length = xs.count sep + 1 := by
  induction xs with
  | nil => rfl
  | cons x xs ih =>
      obtain ⟨piece, others, hp⟩ := List.exists_cons_of_ne_nil (split_ne_nil sep xs)
      rw [hp] at ih
      rw [split_cons, hp, addToPieces, List.count_cons, Nat.add_right_comm, ← ih]
      split <;> simp_all

theorem not_mem_of_mem_split [LawfulBEq α] {sep : α} {xs piece : List α}
    (h : piece ∈ split sep xs) : sep ∉ piece := by
  induction xs generalizing piece with
  | nil =>
      rw [split_nil, List.mem_singleton] at h
      rw [h]
      exact List.not_mem_nil
  | cons x xs ih =>
      obtain ⟨first, others, hp⟩ := List.exists_cons_of_ne_nil (split_ne_nil sep xs)
      rw [hp] at ih
      rw [split_cons, hp, addToPieces] at h
      split at h
      · rcases List.mem_cons.1 h with rfl | h
        · exact List.not_mem_nil
        · exact ih h
      · rename_i hx
        rcases List.mem_cons.1 h with rfl | h
        · rw [List.mem_cons, not_or]
          exact ⟨fun he => hx (beq_iff_eq.2 he.symm), ih List.mem_cons_self⟩
        · exact ih (List.mem_cons_of_mem _ h)

end Text

end BenchChart
