/-!
# Entries in order

A list of pairs in which each key stands once, in the order in which the keys came. `List.lookup` is
its view; `put` changes the entry of one key and keeps all others where they are.
-/

namespace BenchChart

namespace Entries

variable {κ α : Type} [BEq κ]

/-- The entries with a key's value replaced, or added at the end. -/
def put (k : κ) (v : α) : List (κ × α) → List (κ × α)
  | [] => [(k, v)]
  | (l, old) :: rest => if k == l then (l, v) :: rest else (l, old) :: put k v rest

@[simp] theorem put_nil (k : κ) (v : α) : put k v [] = [(k, v)] := rfl

theorem lookup_put_self [LawfulBEq κ] (k : κ) (v : α) (entries : List (κ × α)) :
    (put k v entries).lookup k = some v := by
  induction entries with
  | nil => simp
  | cons entry rest ih =>
    obtain ⟨l, old⟩ := entry
    cases h : k == l <;> simp [put, h, List.lookup_cons, ih]

theorem lookup_put_of_ne [LawfulBEq κ] {k other : κ} (h : other ≠ k) (v : α)
    (entries : List (κ × α)) : (put k v entries).lookup other = entries.lookup other := by
  have hne : (other == k) = false := by simpa using h
  induction entries with
  | nil => simp [List.lookup_cons, hne]
  | cons entry rest ih =>
    obtain ⟨l, old⟩ := entry
    cases hl : k == l with
    | true =>
      have he : k = l := by simpa using hl
      subst he
      simp [put, List.lookup_cons, hne]
    | false => simp only [put, hl, Bool.false_eq_true, ↓reduceIte, List.lookup_cons, ih]

end Entries

end BenchChart
