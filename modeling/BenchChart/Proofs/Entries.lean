import BenchChart.Entries

/-!
# Lists with each key once

`put` keeps the keys of a list distinct, and what holds of all values, if it holds of the new one.
`Keyed` is both together.
-/

namespace BenchChart

namespace Entries

section Keys

variable {κ α : Type} [BEq κ]

theorem keys_put (k : κ) (v : α) (entries : List (κ × α)) :
    (put k v entries).map Prod.fst = entries.map Prod.fst ∨
      (put k v entries).map Prod.fst = entries.map Prod.fst ++ [k] := by
  induction entries with
  | nil => exact .inr rfl
  | cons first rest ih =>
      rw [put]
      split
      · exact .inl rfl
      · exact ih.imp (congrArg (first.1 :: ·)) (congrArg (first.1 :: ·))

variable [LawfulBEq κ]

theorem mem_put {k : κ} {v : α} {entries : List (κ × α)} {entry : κ × α}
    (h : entry ∈ put k v entries) : entry = (k, v) ∨ entry ∈ entries := by
  induction entries with
  | nil => exact .inl (List.mem_singleton.1 h)
  | cons first rest ih =>
      rw [put] at h
      split at h
      · next hkey =>
          rcases List.mem_cons.1 h with rfl | h
          · exact .inl (by rw [beq_iff_eq.1 hkey])
          · exact .inr (List.mem_cons_of_mem _ h)
      · rcases List.mem_cons.1 h with rfl | h
        · exact .inr List.mem_cons_self
        · exact (ih h).imp_right (List.mem_cons_of_mem _)

theorem lookup_eq_none_iff_not_mem {k : κ} {entries : List (κ × α)} :
    entries.lookup k = none ↔ k ∉ entries.map Prod.fst := by
  simp only [List.lookup_eq_none_iff, bne_iff_ne, ne_eq, List.mem_map, not_exists, not_and]
  exact forall₂_congr fun _ _ => not_congr eq_comm

theorem lookup_of_ne {k l : κ} (h : k ≠ l) (v : α) (rest : List (κ × α)) :
    ((l, v) :: rest).lookup k = rest.lookup k := by
  rw [List.lookup_cons, beq_false_of_ne h]

theorem mem_of_lookup {k : κ} {v : α} {entries : List (κ × α)} (h : entries.lookup k = some v) :
    (k, v) ∈ entries := by
  obtain ⟨front, back, hsplit, _⟩ := List.lookup_eq_some_iff.1 h
  rw [hsplit]
  simp

theorem put_of_lookup_eq_none {k : κ} {entries : List (κ × α)} (h : entries.lookup k = none)
    (v : α) : put k v entries = entries ++ [(k, v)] := by
  induction entries with
  | nil => rfl
  | cons first rest ih =>
      rw [lookup_eq_none_iff_not_mem, List.map_cons, List.mem_cons, not_or,
        ← lookup_eq_none_iff_not_mem] at h
      rw [put, beq_false_of_ne h.1, if_neg Bool.false_ne_true, ih h.2, List.cons_append]

theorem put_put_self (k : κ) (v w : α) (entries : List (κ × α)) :
    put k v (put k w entries) = put k v entries := by
  induction entries with
  | nil => simp [put]
  | cons first rest ih =>
      by_cases hkey : k = first.1
      · simp [put, hkey]
      · simp [put, hkey, ih]

/-- Changing the value of a key that is there and putting another one do not depend on the order. -/
theorem put_comm {k l : κ} (hkl : k ≠ l) {entries : List (κ × α)} (hk : entries.lookup k ≠ none)
    (v w : α) : put l w (put k v entries) = put k v (put l w entries) := by
  induction entries with
  | nil => exact absurd rfl hk
  | cons first rest ih =>
      obtain ⟨m, old⟩ := first
      by_cases hkm : k = m
      · subst hkm
        simp [put, hkl.symm]
      · have hrest : rest.lookup k ≠ none := by rwa [← lookup_of_ne hkm old]
        by_cases hlm : l = m
        · simp [put, hkm, hlm]
        · simp [put, hkm, hlm, ih hrest]

end Keys

/-- Each key stands once, and all values have a property. -/
structure Keyed {κ α : Type} (P : α → Prop) (entries : List (κ × α)) : Prop where
  nodup : (entries.map Prod.fst).Nodup
  all : ∀ entry ∈ entries, P entry.2

namespace Keyed

variable {κ α β : Type} {P : α → Prop} {entries : List (κ × α)}

theorem nil : Keyed P ([] : List (κ × α)) := ⟨List.nodup_nil, by simp⟩

theorem map {Q : β → Prop} {f : α → β} (h : Keyed P entries)
    (hf : ∀ entry ∈ entries, P entry.2 → Q (f entry.2)) :
    Keyed Q (entries.map fun entry => (entry.1, f entry.2)) := by
  constructor
  · rw [List.map_map]
    exact h.nodup
  · intro entry hmem
    obtain ⟨old, hold, rfl⟩ := List.mem_map.1 hmem
    exact hf old hold (h.all old hold)

variable [BEq κ] [LawfulBEq κ] {k : κ} {v : α}

theorem cons_iff {rest : List (κ × α)} :
    Keyed P ((k, v) :: rest) ↔ rest.lookup k = none ∧ P v ∧ Keyed P rest := by
  rw [lookup_eq_none_iff_not_mem]
  constructor
  · rintro ⟨hnodup, hall⟩
    obtain ⟨hk, hnodup⟩ := List.nodup_cons.1 hnodup
    obtain ⟨hv, hall⟩ := List.forall_mem_cons.1 hall
    exact ⟨hk, hv, hnodup, hall⟩
  · rintro ⟨hk, hv, hnodup, hall⟩
    exact ⟨List.nodup_cons.2 ⟨hk, hnodup⟩, List.forall_mem_cons.2 ⟨hv, hall⟩⟩

theorem of_lookup (h : Keyed P entries) (hk : entries.lookup k = some v) : P v :=
  h.all _ (mem_of_lookup hk)

theorem put (h : Keyed P entries) (hv : P v) : Keyed P (put k v entries) := by
  induction entries with
  | nil => exact cons_iff.2 ⟨rfl, hv, nil⟩
  | cons first rest ih =>
      obtain ⟨l, old⟩ := first
      obtain ⟨hl, hold, hrest⟩ := cons_iff.1 h
      rw [Entries.put]
      split
      · exact cons_iff.2 ⟨hl, hv, hrest⟩
      · next hne =>
          have hlk : l ≠ k := fun heq => hne (beq_iff_eq.2 heq.symm)
          exact cons_iff.2 ⟨by rw [lookup_put_of_ne hlk, hl], hold, ih hrest⟩

theorem append (h : Keyed P entries) (hk : entries.lookup k = none) (hv : P v) :
    Keyed P (entries ++ [(k, v)]) := by
  rw [← put_of_lookup_eq_none hk]
  exact h.put hv

end Keyed

end Entries

end BenchChart
