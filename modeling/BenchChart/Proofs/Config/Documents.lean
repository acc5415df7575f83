import BenchChart.Proofs.Config.Overlay

/-!
# Laying one document over another

The entries of a document go into the tree one after the other, each at the end of its way. As long
as no entry changes an element of an array and none stands on the way of another, this is to make a
tree of the document alone and to lay it over the rest: `ofDocuments_append`. Each entry then finds
its place free in what the document has set so far, which `Free` says.
-/

namespace BenchChart

namespace Config

def Step.isKey : Step → Bool
  | .key _ => true
  | .index _ => false

theorem Step.exists_ofKey (key : String) : ∃ k rest, Step.ofKey key = .key k :: rest := by
  rw [Step.ofKey]
  cases hway : Step.way? key.toList with
  | none => exact ⟨key, [], rfl⟩
  | some way =>
      obtain ⟨⟨step, after⟩, hname, h⟩ := Option.bind_eq_some_iff.1 hway
      obtain ⟨rest, _, h⟩ := Option.bind_eq_some_iff.1 h
      cases h
      simp only [Step.name?] at hname
      split at hname
      · cases hname
      · cases hname
        exact ⟨_, rest, rfl⟩

namespace Setting

/-- No key at the top of a document changes an element of an array, and none leads to another one
or below it. -/
structure LeadApart (keys : List String) : Prop where
  byKey : ∀ key ∈ keys, ∀ step ∈ Step.ofKey key, step.isKey = true
  apart : keys.Pairwise fun key later =>
    ¬ Step.ofKey key <+: Step.ofKey later ∧ ¬ Step.ofKey later <+: Step.ofKey key

instance : DecidablePred LeadApart := fun keys =>
  decidable_of_iff
    ((∀ key ∈ keys, ∀ step ∈ Step.ofKey key, step.isKey = true) ∧
      keys.Pairwise fun key later =>
        ¬ Step.ofKey key <+: Step.ofKey later ∧ ¬ Step.ofKey later <+: Step.ofKey key)
    ⟨fun h => ⟨h.1, h.2⟩, fun h => ⟨h.byKey, h.apart⟩⟩

/-- Nothing is set at the end of a way, and only tables are on it. -/
def Free : List Step → Option Setting → Prop
  | .key k :: steps, place =>
    (∀ s, place = some s → s.isTable = true) ∧ Free steps (place.bind (·.get? k))
  | _, place => place = none

theorem free_none (steps : List Step) : Free steps none := by
  induction steps with
  | nil => rfl
  | cons step steps ih =>
      cases step with
      | key => exact ⟨by simp, ih⟩
      | index => rfl

/-- A base with what may be set laid over it. -/
def beneath (base : Setting) : Option Setting → Setting
  | none => base
  | some s => overlay base s

theorem bind_get? (place : Option Setting) (k : String) :
    place.bind (·.get? k) = (place.getD .unset).entries.lookup k := by
  cases place <;> rfl

theorem alter_key (change : Setting → Setting) (k : String) (steps : List Step)
    (place : Option Setting) :
    alter change (.key k :: steps) (place.getD .unset) =
      .table (Entries.put k (alter change steps ((place.bind (·.get? k)).getD .unset))
        (place.getD .unset).entries) := by
  rw [alter, get?, bind_get?]

theorem entries_beneath {place : Option Setting}
    (htable : ∀ s, place = some s → s.isTable = true) (base : Setting) :
    (beneath base place).entries = overlayEntries base.entries (place.getD .unset).entries := by
  cases place with
  | none => exact (overlayEntries_nil _).symm
  | some s =>
      cases s with
      | table entries => rw [beneath, overlay_table]; rfl
      | _ => cases htable _ rfl

section Place

variable {place : Option Setting} (htidy : ∀ s, place = some s → s.Tidy)

include htidy

theorem keyed_entries : Entries.Keyed Tidy (place.getD .unset).entries := by
  cases place with
  | none => exact .nil
  | some s =>
      cases htidy s rfl with
      | leaf hleaf =>
          cases s with
          | table => cases hleaf
          | _ => exact .nil
      | table hnodup hall => exact ⟨hnodup, hall⟩

theorem tidy_of_bind_get? (k : String) : ∀ s, place.bind (·.get? k) = some s → s.Tidy := by
  intro s hs
  rw [bind_get?] at hs
  exact (keyed_entries htidy).of_lookup hs

theorem get?_beneath (htable : ∀ s, place = some s → s.isTable = true) (base : Setting)
    (k : String) :
    ((beneath base place).get? k).getD .unset =
      beneath ((base.get? k).getD .unset) (place.bind (·.get? k)) := by
  rw [get?, entries_beneath htable, lookup_overlayEntries (keyed_entries htidy), bind_get?]
  cases (place.getD .unset).entries.lookup k <;> rfl

end Place

section Alter

variable {steps : List Step} {place : Option Setting} {v : Setting}

/-- What is laid over a free place can as well be laid over the base there. -/
theorem overlay_alter (hkeys : ∀ step ∈ steps, step.isKey = true)
    (htidy : ∀ s, place = some s → s.Tidy) (hfree : Free steps place) (hv : v.Tidy)
    (base : Setting) :
    overlay base (alter (overlay · v) steps (place.getD .unset)) =
      alter (overlay · v) steps (beneath base place) := by
  -- Only tables are met on the way, so both sides go down by the same key.
  induction steps generalizing base place with
  | nil =>
      obtain rfl : place = none := hfree
      rw [beneath, alter, alter, Option.getD_none, hv.overlay_unset]
  | cons step steps ih =>
      obtain ⟨hstep, hrest⟩ := List.forall_mem_cons.1 hkeys
      cases step with
      | index => cases hstep
      | key k =>
          obtain ⟨htable, hfree⟩ := hfree
          have hbelow := ih hrest (tidy_of_bind_get? htidy k) hfree ((base.get? k).getD .unset)
          rw [alter_key, overlay_table, overlayEntries_put (keyed_entries htidy),
            show (base.entries.lookup k).getD .unset = (base.get? k).getD .unset from rfl, hbelow,
            ← get?_beneath htidy htable, ← entries_beneath htable]
          exact (alter_key (overlay · v) k steps (some (beneath base place))).symm

theorem tidy_alter (hkeys : ∀ step ∈ steps, step.isKey = true)
    (htidy : ∀ s, place = some s → s.Tidy) (hfree : Free steps place) (hv : v.Tidy) :
    (alter (overlay · v) steps (place.getD .unset)).Tidy := by
  induction steps generalizing place with
  | nil =>
      obtain rfl : place = none := hfree
      rwa [alter, Option.getD_none, hv.overlay_unset]
  | cons step steps ih =>
      obtain ⟨hstep, hrest⟩ := List.forall_mem_cons.1 hkeys
      cases step with
      | index => cases hstep
      | key k =>
          have hbelow := ih hrest (tidy_of_bind_get? htidy k) hfree.2
          rw [alter_key, tidy_table_iff]
          exact (keyed_entries htidy).put hbelow

/-- A place that is not on the way to what is changed, nor beyond it, stays free. -/
theorem free_alter {other : List Step} (hkeys : ∀ step ∈ steps, step.isKey = true)
    (hotherKeys : ∀ step ∈ other, step.isKey = true) (change : Setting → Setting)
    (hafter : ¬ steps <+: other) (hbefore : ¬ other <+: steps)
    (hsteps : Free steps place) (hother : Free other place) :
    Free other (some (alter change steps (place.getD .unset))) := by
  induction steps generalizing other place with
  | nil => exact absurd List.nil_prefix hafter
  | cons step steps ih =>
      obtain ⟨hstep, hrest⟩ := List.forall_mem_cons.1 hkeys
      cases step with
      | index => cases hstep
      | key k =>
          rw [alter_key]
          cases other with
          | nil => exact absurd List.nil_prefix hbefore
          | cons otherStep other =>
              obtain ⟨hotherStep, hotherRest⟩ := List.forall_mem_cons.1 hotherKeys
              cases otherStep with
              | index => cases hotherStep
              | key l =>
                  refine ⟨fun s hs => by cases hs; rfl, ?_⟩
                  rw [Option.bind_some, get?_table]
                  -- The ways part at some key, since neither of them is the start of the other.
                  by_cases hkl : l = k
                  · subst hkl
                    rw [Entries.lookup_put_self]
                    rw [List.cons_prefix_cons, not_and] at hafter hbefore
                    exact ih hrest hotherRest (hafter rfl) (hbefore rfl) hsteps.2 hother.2
                  · rw [Entries.lookup_put_of_ne hkl, ← bind_get?]
                    exact hother.2

end Alter

section Document

variable {document : List (String × Toml.Value)}

theorem isTable_addEntry (tree : Setting) (entry : String × Toml.Value) :
    (addEntry tree entry).isTable = true := by
  obtain ⟨k, steps, hway⟩ := Step.exists_ofKey entry.1
  rw [addEntry, hway, alter, isTable]

theorem isTable_addDocument {tree : Setting} (h : tree.isTable = true)
    (document : List (String × Toml.Value)) : (addDocument tree document).isTable = true := by
  induction document generalizing tree with
  | nil => exact h
  | cons entry rest ih => exact ih (isTable_addEntry tree entry)

theorem isTable_ofDocuments (documents : List (List (String × Toml.Value))) :
    (ofDocuments documents).isTable = true := by
  have hempty : isTable (.table []) = true := rfl
  exact List.foldlRecOn (motive := fun tree => tree.isTable = true) documents addDocument hempty
    fun _ htree document _ => isTable_addDocument htree document

theorem overlay_empty {base : Setting} (h : base.isTable = true) :
    overlay base (.table []) = base := by
  cases base with
  | table entries => rw [overlay_table, overlayEntries_nil, entries_table]
  | _ => cases h

/-- A document can be laid over a tree before or after the tree is laid over a base. -/
theorem addDocument_overlay (hkeys : LeadApart (document.map Prod.fst))
    (hvalues : ∀ entry ∈ document, entry.2.Tidy) {tree : Setting} (htree : tree.Tidy)
    (hfree : ∀ entry ∈ document, Free (Step.ofKey entry.1) (some tree)) (base : Setting) :
    addDocument (overlay base tree) document = overlay base (addDocument tree document) ∧
      (addDocument tree document).Tidy := by
  induction document generalizing tree with
  | nil => exact ⟨rfl, htree⟩
  | cons entry rest ih =>
      obtain ⟨hbyKey, hbyKeyRest⟩ := List.forall_mem_cons.1 hkeys.byKey
      obtain ⟨hapart, hapartRest⟩ := List.pairwise_cons.1 hkeys.apart
      obtain ⟨hvalue, hvaluesRest⟩ := List.forall_mem_cons.1 hvalues
      obtain ⟨hplace, hfreeRest⟩ := List.forall_mem_cons.1 hfree
      have htidy : ∀ s, some tree = some s → s.Tidy := fun s hs => Option.some.inj hs ▸ htree
      have hadd : addEntry (overlay base tree) entry = overlay base (addEntry tree entry) :=
        (overlay_alter hbyKey htidy hplace (tidy_ofToml hvalue) base).symm
      have hadded : (addEntry tree entry).Tidy :=
        tidy_alter hbyKey htidy hplace (tidy_ofToml hvalue)
      rw [addDocument, addDocument, List.foldl_cons, List.foldl_cons, hadd]
      -- The entry leaves the places of those after it free, as its way is apart from theirs.
      refine ih ⟨hbyKeyRest, hapartRest⟩ hvaluesRest hadded fun later hlater => ?_
      have hmem := List.mem_map_of_mem (f := Prod.fst) hlater
      obtain ⟨hafter, hbefore⟩ := hapart later.1 hmem
      exact free_alter hbyKey (hbyKeyRest later.1 hmem) _ hafter hbefore hplace
        (hfreeRest later hlater)

theorem free_empty (key : String) : Free (Step.ofKey key) (some (.table [])) := by
  obtain ⟨k, steps, hway⟩ := Step.exists_ofKey key
  rw [hway]
  exact ⟨fun s hs => by cases hs; rfl, free_none steps⟩

theorem tidy_ofDocuments (hkeys : LeadApart (document.map Prod.fst))
    (hvalues : ∀ entry ∈ document, entry.2.Tidy) : (ofDocuments [document]).Tidy :=
  (addDocument_overlay hkeys hvalues (tidy_table_iff.2 .nil) (fun _ _ => free_empty _)
    (.table [])).2

/-- A document overrides those before it as a whole. -/
theorem ofDocuments_append (below : List (List (String × Toml.Value)))
    (hkeys : LeadApart (document.map Prod.fst)) (hvalues : ∀ entry ∈ document, entry.2.Tidy) :
    ofDocuments (below ++ [document]) = overlay (ofDocuments below) (ofDocuments [document]) := by
  have hover := (addDocument_overlay hkeys hvalues (tidy_table_iff.2 .nil)
    (fun _ _ => free_empty _) (ofDocuments below)).1
  rw [overlay_empty (isTable_ofDocuments below)] at hover
  rw [ofDocuments, List.foldl_append]
  exact hover

end Document

end Setting

end Config

end BenchChart
