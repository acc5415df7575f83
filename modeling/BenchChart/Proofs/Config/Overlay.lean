import BenchChart.Config.Setting
import BenchChart.Proofs.Entries
import BenchChart.Proofs.Toml.Keys

/-!
# Laying one tree over another

Where tables have each of their keys once, what stands in the overlaid tree at the end of a way of
keys is told by what stands there in the two trees: `overrides_overlay`.
-/

namespace BenchChart

namespace Config

namespace Setting

def isTable : Setting → Bool
  | .table _ => true
  | _ => false

/-- The tables of a setting that are not in an array have each of their keys once. -/
inductive Tidy : Setting → Prop
  | leaf {s : Setting} (hleaf : s.isTable = false) : Tidy s
  | table {entries : List (String × Setting)} (hnodup : (entries.map Prod.fst).Nodup)
      (h : ∀ entry ∈ entries, Tidy entry.2) : Tidy (.table entries)

@[simp] theorem entries_table (entries : List (String × Setting)) :
    (table entries).entries = entries := rfl

theorem get?_table (entries : List (String × Setting)) (k : String) :
    (table entries).get? k = entries.lookup k := rfl

theorem get?_of_isTable_eq_false {s : Setting} (h : s.isTable = false) (k : String) :
    s.get? k = none := by
  cases s with
  | table => cases h
  | _ => rfl

theorem tidy_table_iff {entries : List (String × Setting)} :
    Tidy (.table entries) ↔ Entries.Keyed Tidy entries := by
  refine ⟨fun h => ?_, fun h => .table h.nodup h.all⟩
  cases h with
  | leaf hleaf => cases hleaf
  | table hnodup hall => exact ⟨hnodup, hall⟩

theorem ofTomlEntries_eq_map (entries : List (String × Toml.Value)) :
    ofTomlEntries entries = entries.map fun entry => (entry.1, ofToml entry.2) := by
  induction entries with
  | nil => rfl
  | cons entry rest ih => rw [ofTomlEntries, ih, List.map_cons]

theorem tidy_ofToml {v : Toml.Value} (h : v.Tidy) : (ofToml v).Tidy := by
  induction h with
  | table hnodup _ ih =>
      rw [ofToml, ofTomlEntries_eq_map, tidy_table_iff]
      have hkeyed : Entries.Keyed (fun v => (ofToml v).Tidy) _ := ⟨hnodup, ih⟩
      exact hkeyed.map fun _ _ htidy => htidy
  | _ => exact .leaf (by simp [ofToml, isTable])

theorem overlay_table (base : Setting) (entries : List (String × Setting)) :
    overlay base (.table entries) = .table (overlayEntries base.entries entries) := by
  rw [overlay]

theorem overlay_of_isTable_eq_false {s : Setting} (h : s.isTable = false) (base : Setting) :
    overlay base s = s := by
  cases s with
  | table => cases h
  | _ => rw [overlay]

section Overlay

variable {P : Setting → Prop} {entries base : List (String × Setting)} {k : String}

theorem lookup_overlayEntries (h : Entries.Keyed P entries) :
    (overlayEntries base entries).lookup k =
      match entries.lookup k with
      | none => base.lookup k
      | some s => some (overlay ((base.lookup k).getD .unset) s) := by
  induction entries generalizing base with
  | nil => rw [overlayEntries_nil, List.lookup_nil]
  | cons entry rest ih =>
      obtain ⟨l, s⟩ := entry
      obtain ⟨hl, _, hrest⟩ := Entries.Keyed.cons_iff.1 h
      rw [overlayEntries_cons, ih hrest]
      by_cases hkl : k = l
      · subst hkl
        simp only [hl, Entries.lookup_put_self, List.lookup_cons_self]
      · rw [Entries.lookup_put_of_ne hkl, Entries.lookup_of_ne hkl]

/-- A key that the base has and the overlaid entries have not stays where it is. -/
theorem overlayEntries_put_base (h : entries.lookup k = none) (hbase : base.lookup k ≠ none)
    (s : Setting) :
    overlayEntries (Entries.put k s base) entries =
      Entries.put k s (overlayEntries base entries) := by
  induction entries generalizing base with
  | nil => rw [overlayEntries_nil, overlayEntries_nil]
  | cons entry rest ih =>
      obtain ⟨l, t⟩ := entry
      rw [Entries.lookup_eq_none_iff_not_mem, List.map_cons, List.mem_cons, not_or,
        ← Entries.lookup_eq_none_iff_not_mem] at h
      obtain ⟨hkl, hrest⟩ := h
      have hkept : ∀ t, (Entries.put l t base).lookup k ≠ none := fun t => by
        rwa [Entries.lookup_put_of_ne hkl]
      rw [overlayEntries_cons, overlayEntries_cons, Entries.lookup_put_of_ne (Ne.symm hkl),
        Entries.put_comm hkl hbase, ih hrest (hkept _)]

theorem overlayEntries_put (h : Entries.Keyed P entries) (s : Setting) :
    overlayEntries base (Entries.put k s entries) =
      Entries.put k (overlay ((base.lookup k).getD .unset) s) (overlayEntries base entries) := by
  induction entries generalizing base with
  | nil => rw [Entries.put_nil, overlayEntries_cons, overlayEntries_nil, overlayEntries_nil]
  | cons entry rest ih =>
      obtain ⟨l, old⟩ := entry
      obtain ⟨hl, _, hrest⟩ := Entries.Keyed.cons_iff.1 h
      by_cases hkl : k = l
      · subst hkl
        rw [Entries.put, beq_self_eq_true, if_pos rfl, overlayEntries_cons, overlayEntries_cons,
          ← overlayEntries_put_base hl (by simp [Entries.lookup_put_self]), Entries.put_put_self]
      · rw [Entries.put, beq_false_of_ne hkl, if_neg Bool.false_ne_true, overlayEntries_cons,
          overlayEntries_cons, ih hrest, Entries.lookup_put_of_ne hkl]

/-- Over a base that has none of their keys, entries are added as they are. -/
theorem overlayEntries_eq_append (h : Entries.Keyed (fun s => overlay .unset s = s) entries)
    (hbase : ∀ k ∈ entries.map Prod.fst, base.lookup k = none) :
    overlayEntries base entries = base ++ entries := by
  induction entries generalizing base with
  | nil => rw [overlayEntries_nil, List.append_nil]
  | cons entry rest ih =>
      obtain ⟨l, s⟩ := entry
      obtain ⟨hl, hs, hrest⟩ := Entries.Keyed.cons_iff.1 h
      obtain ⟨hbaseL, hbaseRest⟩ := List.forall_mem_cons.1 hbase
      rw [overlayEntries_cons, hbaseL, Option.getD_none, hs, Entries.put_of_lookup_eq_none hbaseL,
        ih hrest, List.append_assoc, List.singleton_append]
      intro k hk
      rw [List.lookup_append, hbaseRest k hk, Option.none_or, List.lookup_eq_none_iff]
      rintro entry hentry
      obtain rfl := List.mem_singleton.1 hentry
      have hne : k ≠ l := fun heq => Entries.lookup_eq_none_iff_not_mem.1 hl (heq ▸ hk)
      simpa using hne

end Overlay

theorem Tidy.overlay_unset {s : Setting} (h : s.Tidy) : overlay .unset s = s := by
  induction h with
  | leaf hleaf => exact overlay_of_isTable_eq_false hleaf _
  | table hnodup _ ih =>
      rw [overlay_table]
      exact congrArg Setting.table (overlayEntries_eq_append ⟨hnodup, ih⟩ fun _ _ => rfl)

/-- What a tree with another one laid over it says at the end of each way of keys. -/
structure Overrides (base upper result : Setting) : Prop where
  /-- What is no table replaces what it is laid over. -/
  replaced : ∀ keys s, upper.find? keys = some s → s.isTable = false → result.find? keys = some s
  merged : ∀ keys s, upper.find? keys = some s → s.isTable = true →
    ∃ t, result.find? keys = some t ∧ t.isTable = true
  /-- What is not set by the upper tree is what it was. -/
  kept : ∀ keys, upper.find? keys = none →
    (∀ front s, front <+: keys → upper.find? front = some s → s.isTable = true) →
    result.find? keys = base.find? keys

theorem find?_cons (s : Setting) (k : String) (keys : List String) :
    s.find? (k :: keys) = (s.get? k).bind (find? · keys) := rfl

theorem find?_singleton (s : Setting) (k : String) : s.find? [k] = s.get? k := by
  rw [find?_cons]
  cases s.get? k <;> rfl

/-- Each key of a tidy tree leads to a tidy one, which is laid over what the base has there. -/
theorem get?_overlay (base : Setting) {upper s : Setting} (h : upper.Tidy) {k : String}
    (hk : upper.get? k = some s) :
    s.Tidy ∧ (overlay base upper).get? k = some (overlay ((base.get? k).getD .unset) s) := by
  cases h with
  | leaf hleaf =>
      rw [get?_of_isTable_eq_false hleaf] at hk
      cases hk
  | table hnodup hall =>
      have hkeyed : Entries.Keyed Tidy _ := ⟨hnodup, hall⟩
      rw [get?_table] at hk
      refine ⟨hkeyed.of_lookup hk, ?_⟩
      rw [overlay_table, get?_table, lookup_overlayEntries hkeyed, hk]
      rfl

theorem get?_overlay_of_none {base upper : Setting} (h : upper.Tidy) (htable : upper.isTable = true)
    {k : String} (hk : upper.get? k = none) : (overlay base upper).get? k = base.get? k := by
  cases h with
  | leaf hleaf =>
      rw [hleaf] at htable
      cases htable
  | table hnodup hall =>
      have hkeyed : Entries.Keyed Tidy _ := ⟨hnodup, hall⟩
      rw [get?_table] at hk
      rw [overlay_table, get?_table, lookup_overlayEntries hkeyed, hk]
      rfl

theorem find?_overlay {base upper s : Setting} (h : upper.Tidy) {keys : List String}
    (hs : upper.find? keys = some s) :
    (overlay base upper).find? keys = some (overlay ((base.find? keys).getD .unset) s) := by
  induction keys generalizing base upper with
  | nil =>
      cases hs
      rfl
  | cons k keys ih =>
      obtain ⟨t, ht, hs⟩ := Option.bind_eq_some_iff.1 hs
      obtain ⟨htidy, hget⟩ := get?_overlay base h ht
      rw [find?_cons, hget, Option.bind_some, ih htidy hs, find?_cons]
      cases base.get? k with
      | some => rfl
      | none => cases keys <;> rfl

theorem find?_overlay_of_none {base upper : Setting} (h : upper.Tidy) {keys : List String}
    (hnone : upper.find? keys = none)
    (htables : ∀ front s, front <+: keys → upper.find? front = some s → s.isTable = true) :
    (overlay base upper).find? keys = base.find? keys := by
  induction keys generalizing base upper with
  | nil => cases hnone
  | cons k keys ih =>
      cases hk : upper.get? k with
      | none =>
          have htable := htables [] upper List.nil_prefix rfl
          rw [find?_cons, find?_cons, get?_overlay_of_none h htable hk]
      | some t =>
          obtain ⟨htidy, hget⟩ := get?_overlay base h hk
          rw [find?_cons, hk, Option.bind_some] at hnone
          have hbelow : ∀ front s, front <+: keys → t.find? front = some s → s.isTable = true := by
            intro front s hfront hs
            refine htables (k :: front) s (List.cons_prefix_cons.2 ⟨rfl, hfront⟩) ?_
            rw [find?_cons, hk, Option.bind_some, hs]
          rw [find?_cons, hget, Option.bind_some, ih htidy hnone hbelow, find?_cons]
          cases base.get? k with
          | some => rfl
          | none =>
              cases keys with
              | nil => cases hnone
              | cons => rfl

theorem overrides_overlay (base : Setting) {upper : Setting} (h : upper.Tidy) :
    Overrides base upper (overlay base upper) := by
  refine ⟨?_, ?_, fun keys => find?_overlay_of_none h⟩
  · intro keys s hs hleaf
    rw [find?_overlay h hs, overlay_of_isTable_eq_false hleaf]
  · intro keys s hs htable
    refine ⟨_, find?_overlay h hs, ?_⟩
    cases s with
    | table entries => rw [overlay_table, isTable]
    | _ => cases htable

end Setting

end Config

end BenchChart
