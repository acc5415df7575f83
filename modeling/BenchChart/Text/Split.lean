/-!
# Splitting at a separator

`split sep xs` is what stands between the separators in `xs`: with `k` of them there are `k + 1`
pieces, empty ones included.
-/

namespace BenchChart

namespace Text

variable {α : Type} [BEq α]

def addToPieces (sep x : α) (pieces : List (List α)) : List (List α) :=
  if x == sep then [] :: pieces
  else match pieces with
    | [] => [[x]]
    | piece :: others => (x :: piece) :: others

def split (sep : α) (xs : List α) : List (List α) := xs.foldr (addToPieces sep) [[]]

@[simp] theorem split_nil (sep : α) : split sep [] = [[]] := rfl

theorem split_cons (sep x : α) (xs : List α) :
    split sep (x :: xs) = addToPieces sep x (split sep xs) := rfl

theorem split_sep_cons [LawfulBEq α] (sep : α) (xs : List α) :
    split sep (sep :: xs) = [] :: split sep xs := by
  simp [split_cons, addToPieces]

theorem split_ne_nil (sep : α) (xs : List α) : split sep xs ≠ [] := by
  cases xs with
  | nil => simp
  | cons x xs =>
    rw [split_cons]
    unfold addToPieces
    split
    · simp
    · split <;> simp

end Text

end BenchChart
