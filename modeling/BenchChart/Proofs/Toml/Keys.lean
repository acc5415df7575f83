import BenchChart.Proofs.Entries
import BenchChart.Toml.Document

/-!
# The keys of a document

Every table of a document that is read has each of its keys once, however its entries came together:
from dotted keys, headers, arrays of tables and inline tables. What is unfinished counts as what it
becomes when it is finished, so that one property of values is kept all along the way.
-/

namespace BenchChart

namespace Toml

/-- The tables in a value have each of their keys once. -/
inductive Value.Tidy : Value → Prop
  | text (s : String) : Tidy (.text s)
  | integer (n : Int) : Tidy (.integer n)
  | real (x : Binary64) : Tidy (.real x)
  | boolean (b : Bool) : Tidy (.boolean b)
  | moment (s : String) : Tidy (.moment s)
  | array {items : List Value} (h : ∀ item ∈ items, Tidy item) : Tidy (.array items)
  | table {entries : List (String × Value)} (hnodup : (entries.map Prod.fst).Nodup)
      (h : ∀ entry ∈ entries, Tidy entry.2) : Tidy (.table entries)

theorem Value.tidy_array_iff {items : List Value} :
    Value.Tidy (.array items) ↔ ∀ item ∈ items, item.Tidy :=
  ⟨fun h => by cases h; assumption, .array⟩

theorem Value.tidy_table_iff {entries : List (String × Value)} :
    Value.Tidy (.table entries) ↔ Entries.Keyed Value.Tidy entries :=
  ⟨fun h => by cases h; constructor <;> assumption, fun h => .table h.nodup h.all⟩

theorem finishEntries_eq_map (entries : Items) :
    finishEntries entries = entries.map fun entry => (entry.1, entry.2.finish) := by
  induction entries with
  | nil => rfl
  | cons entry rest ih => rw [finishEntries, ih, List.map_cons]

theorem finishTables_eq_map (elements : List Items) :
    finishTables elements = elements.map fun entries => .table (finishEntries entries) := by
  induction elements with
  | nil => rfl
  | cons entries rest ih => rw [finishTables, ih, List.map_cons]

/-- The value that the item becomes is tidy. -/
def Item.Tidy (item : Item) : Prop := item.finish.Tidy

/-- The unfinished tables have each of their keys once. -/
abbrev Items.Tidy (entries : Items) : Prop := Entries.Keyed Item.Tidy entries

theorem tidy_finishEntries_iff {entries : Items} :
    Value.Tidy (.table (finishEntries entries)) ↔ Items.Tidy entries := by
  rw [Value.tidy_table_iff, finishEntries_eq_map]
  constructor
  · rintro ⟨hnodup, hall⟩
    rw [List.map_map] at hnodup
    exact ⟨hnodup, fun entry hmem => hall _ (List.mem_map_of_mem hmem)⟩
  · exact fun h => h.map fun _ _ htidy => htidy

theorem Item.tidy_table_iff {origin : Origin} {entries : Items} :
    Item.Tidy (.table origin entries) ↔ Items.Tidy entries := by
  rw [Item.Tidy, Item.finish, tidy_finishEntries_iff]

theorem Item.tidy_tables_iff {elements : List Items} :
    Item.Tidy (.tables elements) ↔ ∀ entries ∈ elements, Items.Tidy entries := by
  rw [Item.Tidy, Item.finish, finishTables_eq_map, Value.tidy_array_iff]
  simp only [List.mem_reverse, List.forall_mem_map, tidy_finishEntries_iff]

theorem ok_of_bind {α β : Type} {x : Except Fault α} {f : α → Except Fault β} {b : β}
    (h : x >>= f = .ok b) : ∃ a, x = .ok a ∧ f a = .ok b := by
  cases x with
  | error => cases h
  | ok a => exact ⟨a, rfl, h⟩

theorem ok_of_map {α β : Type} {x : Except Fault α} {f : α → β} {b : β} (h : x.map f = .ok b) :
    ∃ a, x = .ok a ∧ f a = b := by
  cases x with
  | error => cases h
  | ok a => exact ⟨a, rfl, Except.ok.inj h⟩

namespace Items

variable {entries more : Items}

theorem tidy_add {value : Value} (hvalue : value.Tidy) {names : List String}
    (h : Items.Tidy entries) (hadd : add value names entries = .ok more) : Items.Tidy more := by
  fun_induction add value names entries generalizing more with
  | case1 => cases hadd
  | case2 k entries hnone =>
      cases hadd
      exact h.append (Option.isNone_iff_eq_none.1 hnone) hvalue
  | case3 => cases hadd
  | case4 entries k ks _ hnone ih =>
      obtain ⟨below, hbelow, he⟩ := ok_of_bind hadd
      cases he
      exact h.append hnone (Item.tidy_table_iff.2 (ih .nil hbelow))
  | case5 => cases hadd
  | case6 entries k ks _ origin old _ hold ih =>
      obtain ⟨below, hbelow, he⟩ := ok_of_bind hadd
      cases he
      exact h.put (Item.tidy_table_iff.2 (ih (Item.tidy_table_iff.1 (h.of_lookup hold)) hbelow))
  | case7 => cases hadd
  | case8 entries k ks _ newest older hold _ ih =>
      obtain ⟨below, hbelow, he⟩ := ok_of_bind hadd
      cases he
      have hall := List.forall_mem_cons.1 (Item.tidy_tables_iff.1 (h.of_lookup hold))
      exact h.put (Item.tidy_tables_iff.2 (List.forall_mem_cons.2 ⟨ih hall.1 hbelow, hall.2⟩))
  | case9 => cases hadd

theorem tidy_alter {change : Items → Except Fault Items}
    (hchange : ∀ {entries more}, Items.Tidy entries → change entries = .ok more → Items.Tidy more)
    {path : List String} (h : Items.Tidy entries) (halter : alter change path entries = .ok more) :
    Items.Tidy more := by
  fun_induction alter change path entries generalizing more with
  | case1 => exact hchange h halter
  | case2 entries k ks hnone ih =>
      obtain ⟨below, hbelow, he⟩ := ok_of_bind halter
      cases he
      exact h.append hnone (Item.tidy_table_iff.2 (ih .nil hbelow))
  | case3 entries k ks origin old hold ih =>
      obtain ⟨below, hbelow, he⟩ := ok_of_bind halter
      cases he
      exact h.put (Item.tidy_table_iff.2 (ih (Item.tidy_table_iff.1 (h.of_lookup hold)) hbelow))
  | case4 entries k ks newest older hold ih =>
      obtain ⟨below, hbelow, he⟩ := ok_of_bind halter
      cases he
      have hall := List.forall_mem_cons.1 (Item.tidy_tables_iff.1 (h.of_lookup hold))
      exact h.put (Item.tidy_tables_iff.2 (List.forall_mem_cons.2 ⟨ih hall.1 hbelow, hall.2⟩))
  | case5 => cases halter

theorem tidy_openTable {k : String} (h : Items.Tidy entries)
    (hopen : openTable k entries = .ok more) : Items.Tidy more := by
  rw [openTable] at hopen
  split at hopen
  · next hnone =>
      cases hopen
      exact h.append hnone (Item.tidy_table_iff.2 .nil)
  · next below hold =>
      cases hopen
      exact h.put (Item.tidy_table_iff.2 (Item.tidy_table_iff.1 (h.of_lookup hold)))
  · cases hopen

theorem tidy_openElement {k : String} (h : Items.Tidy entries)
    (hopen : openElement k entries = .ok more) : Items.Tidy more := by
  rw [openElement] at hopen
  split at hopen
  · next hnone =>
      cases hopen
      exact h.append hnone (Item.tidy_tables_iff.2 (by simpa using Entries.Keyed.nil))
  · next elements hold =>
      cases hopen
      have hall := Item.tidy_tables_iff.1 (h.of_lookup hold)
      exact h.put (Item.tidy_tables_iff.2 (List.forall_mem_cons.2 ⟨.nil, hall⟩))
  · cases hopen

theorem tidy_openHeader {element : Bool} {path : List String} (h : Items.Tidy entries)
    (hopen : openHeader element path entries = .ok more) : Items.Tidy more := by
  rw [openHeader] at hopen
  split at hopen
  · cases hopen
  · cases element with
    | true => exact tidy_alter tidy_openElement h hopen
    | false => exact tidy_alter tidy_openTable h hopen

end Items

theorem tidy_scalar? {word : List Char} {v : Value} (h : scalar? word = some v) : v.Tidy := by
  rw [scalar?] at h
  split at h
  · cases h
    exact .boolean true
  split at h
  · cases h
    exact .boolean false
  split at h
  · cases h
    exact .integer _
  · cases h
    exact .real _
  · cases h
    exact .moment _
  · cases h

theorem tidy_scalar {cs rest : List Char} {v : Value} (h : scalar cs = .ok (v, rest)) : v.Tidy := by
  simp only [scalar] at h
  split at h
  · next hv =>
      cases h
      exact tidy_scalar? hv
  · cases h

/-- What is read with some fuel is tidy, be it a value, the items of an array or the entries of an
inline table. -/
structure ReadsTidy (fuel : Nat) : Prop where
  value : ∀ {depth cs v rest}, value depth fuel cs = .ok (v, rest) → v.Tidy
  items : ∀ {depth cs items rest}, arrayItems depth fuel cs = .ok (items, rest) →
    ∀ item ∈ items, item.Tidy
  entries : ∀ {depth entries cs more rest}, Items.Tidy entries →
    inlineEntries depth fuel entries cs = .ok (more, rest) → Items.Tidy more

section Step

variable {fuel depth : Nat} (hfuel : ReadsTidy fuel) {cs rest : List Char}
include hfuel

theorem tidy_value_succ {v : Value} (h : value depth (fuel + 1) cs = .ok (v, rest)) : v.Tidy := by
  simp only [value] at h
  split at h
  · obtain ⟨_, _, he⟩ := ok_of_map h
    cases he
    exact .text _
  · split at h
    · cases h
    · obtain ⟨read, hread, he⟩ := ok_of_map h
      cases he
      exact .array (hfuel.items hread)
  · split at h
    · cases h
    · obtain ⟨read, hread, he⟩ := ok_of_map h
      cases he
      exact tidy_finishEntries_iff.2 (hfuel.entries .nil hread)
  · exact tidy_scalar h

theorem tidy_arrayItems_succ {items : List Value}
    (h : arrayItems depth (fuel + 1) cs = .ok (items, rest)) : ∀ item ∈ items, item.Tidy := by
  rw [arrayItems] at h
  obtain ⟨start, _, h⟩ := ok_of_bind h
  split at h
  · cases h
    simp
  obtain ⟨⟨item, afterItem⟩, hitem, h⟩ := ok_of_bind h
  obtain ⟨next, _, h⟩ := ok_of_bind h
  split at h
  · obtain ⟨⟨others, final⟩, hothers, he⟩ := ok_of_bind h
    cases he
    exact List.forall_mem_cons.2 ⟨hfuel.value hitem, hfuel.items hothers⟩
  · cases h
    exact List.forall_mem_singleton.2 (hfuel.value hitem)
  · cases h

theorem tidy_inlineEntries_succ {entries more : Items} (hentries : Items.Tidy entries)
    (h : inlineEntries depth (fuel + 1) entries cs = .ok (more, rest)) : Items.Tidy more := by
  rw [inlineEntries] at h
  obtain ⟨start, _, h⟩ := ok_of_bind h
  split at h
  · cases h
    exact hentries
  obtain ⟨⟨names, afterKeys⟩, _, h⟩ := ok_of_bind h
  obtain ⟨next, _, h⟩ := ok_of_bind h
  split at h
  · obtain ⟨beforeValue, _, h⟩ := ok_of_bind h
    obtain ⟨⟨v, afterValue⟩, hv, h⟩ := ok_of_bind h
    obtain ⟨added, hadded, h⟩ := ok_of_bind h
    have htidy := Items.tidy_add (hfuel.value hv) hentries hadded
    obtain ⟨next, _, h⟩ := ok_of_bind h
    split at h
    · exact hfuel.entries htidy h
    · cases h
      exact htidy
    · cases h
  · cases h

end Step

theorem readsTidy (fuel : Nat) : ReadsTidy fuel := by
  -- Values, items and entries are read by each other, so all three go down by one fuel.
  induction fuel with
  | zero =>
      constructor
      case value =>
        intro depth cs v rest h
        cases h
      case items =>
        intro depth cs items rest h
        cases h
      case entries =>
        intro depth entries cs more rest _ h
        cases h
  | succ fuel ih =>
      exact ⟨tidy_value_succ ih, tidy_arrayItems_succ ih, tidy_inlineEntries_succ ih⟩

theorem tidy_opened {element : Bool} {names path : List String} {entries more : Items}
    {after rest : List Char} (h : Items.Tidy entries)
    (hopen : (do return (names, ← entries.openHeader element names, ← endOfLine false after) :
      Except Fault (List String × Items × List Char)) = .ok (path, more, rest)) :
    Items.Tidy more := by
  obtain ⟨opened, hopened, hopen⟩ := ok_of_bind hopen
  obtain ⟨_, _, he⟩ := ok_of_bind hopen
  cases he
  exact Items.tidy_openHeader h hopened

theorem tidy_expression {fuel : Nat} {header path : List String} {entries more : Items}
    {cs rest : List Char} (h : Items.Tidy entries)
    (hread : expression fuel header entries cs = .ok (path, more, rest)) : Items.Tidy more := by
  unfold expression at hread
  split at hread
  · obtain ⟨⟨names, afterKeys⟩, _, hread⟩ := ok_of_bind hread
    split at hread
    · exact tidy_opened h hread
    · cases hread
  · obtain ⟨⟨names, afterKeys⟩, _, hread⟩ := ok_of_bind hread
    split at hread
    · exact tidy_opened h hread
    · cases hread
  · obtain ⟨⟨names, afterKeys⟩, _, hread⟩ := ok_of_bind hread
    split at hread
    · obtain ⟨⟨v, afterValue⟩, hv, hread⟩ := ok_of_bind hread
      obtain ⟨after, _, hread⟩ := ok_of_bind hread
      obtain ⟨altered, haltered, he⟩ := ok_of_bind hread
      cases he
      exact Items.tidy_alter (Items.tidy_add ((readsTidy fuel).value hv)) h haltered
    · cases hread

theorem tidy_expressions {fuel : Nat} {header : List String} {entries more : Items}
    {cs : List Char} (h : Items.Tidy entries)
    (hread : expressions fuel header entries cs = .ok more) : Items.Tidy more := by
  fun_induction expressions fuel header entries cs with
  | case1 => cases hread
  | case2 => cases hread
  | case3 =>
      cases hread
      exact h
  | case4 => cases hread
  | case5 fuel header entries cs start _ _ path items rest hexpression ih =>
      exact ih (tidy_expression h hexpression) hread

/-- The tables of a document that is read have each of their keys once. -/
theorem tidy_read {text : List Char} {entries : List (String × Value)}
    (h : read text = .ok entries) : Entries.Keyed Value.Tidy entries := by
  simp only [read] at h
  split at h
  · next items hitems =>
      cases h
      exact Value.tidy_table_iff.1 (tidy_finishEntries_iff.2 (tidy_expressions .nil hitems))
  · cases h

end Toml

end BenchChart
