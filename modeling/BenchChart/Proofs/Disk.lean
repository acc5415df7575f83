import BenchChart.Disk
import BenchChart.Proofs.Entries
import BenchChart.Proofs.Path
import Mathlib.Data.List.Flatten

/-!
# Where paths lead while files are written

Parts of a path that mean nothing do not change where it leads, so every path of a name in a
directory leads to the same place: `child`. On a disk that keeps all directories, a path that led
somewhere leads there still; so what is read or written in a directory depends only on what has the
name there.
-/

namespace BenchChart

namespace Disk

/-- No name on the disk has a slash in it. -/
structure WellNamed (disk : Disk) : Prop where
  entries : ∀ entry ∈ disk.entries, ∀ name ∈ entry.1, Path.slash ∉ name
  current : ∀ name ∈ disk.current, Path.slash ∉ name

/-- The path leads to a directory at the location. -/
structure LeadsToDirectory (disk : Disk) (path : Path) (location : Location) : Prop where
  locate_eq : disk.locate path = .ok location
  node?_eq : disk.node? location = some .directory

/-- All directories are still there, and the current one is the same. -/
structure Keeps (disk later : Disk) : Prop where
  directory : ∀ location, disk.node? location = some .directory →
    later.node? location = some .directory
  current : later.current = disk.current

/-- Where the path of a name in the directory at a location leads. -/
def child (path : Path) (name : Name) (location : Location) : Except Fault Location := do
  check path
  if maxNameLength < name.length then .error .nameTooLong else .ok (name :: location)

theorem walk_append (disk : Disk) (start : Location) (front back : List Name) :
    disk.walk start (front ++ back) =
      disk.walk start front >>= fun middle => disk.walk middle back := by
  fun_induction walk disk start front with
  | case1 => rfl
  | case2 start part rest hnode => simp [walk, hnode]; rfl
  | case3 => simp [walk, *]; rfl
  | case4 => simp [walk, *]
  | case5 => simp [walk, *]
  | case6 => simp [walk, *]; rfl
  | case7 => simp [walk, *]

theorem walk_idle_cons (disk : Disk) (start : Location) {part : Name}
    (h : Path.isIdle part = true) (name : Name) (rest : List Name) :
    disk.walk start (part :: name :: rest) = disk.walk start (name :: rest) := by
  rw [walk]
  cases hnode : disk.node? start with
  | none => rw [walk, hnode]
  | some node =>
      cases node with
      | file content => rw [walk, hnode]
      | directory => rw [if_pos h]

theorem walk_idle_append (disk : Disk) (start : Location) {idle : List Name}
    (h : ∀ part ∈ idle, Path.isIdle part = true) (name : Name) (rest : List Name) :
    disk.walk start (idle ++ name :: rest) = disk.walk start (name :: rest) := by
  induction idle with
  | nil => rfl
  | cons part idle ih =>
      have hpart := h part List.mem_cons_self
      have hidle := ih fun p hp => h p (List.mem_cons_of_mem _ hp)
      rw [← hidle]
      cases idle with
      | nil => exact walk_idle_cons disk start hpart name rest
      | cons next idle => exact walk_idle_cons disk start hpart next _

/-- Parts that mean nothing lead nowhere else. -/
theorem walk_of_sameLead (disk : Disk) (start : Location) {a b : List Name}
    (h : Path.SameLead a b) (name : Name) (rest : List Name) :
    disk.walk start (a ++ name :: rest) = disk.walk start (b ++ name :: rest) := by
  obtain ⟨core, idle, idle', rfl, rfl, hidle, hidle'⟩ := h
  rw [List.append_assoc, List.append_assoc, walk_append, walk_append _ _ core]
  congr 1
  funext middle
  rw [walk_idle_append disk middle hidle, walk_idle_append disk middle hidle']

theorem walk_name {disk : Disk} {location : Location} (h : disk.node? location = some .directory)
    {name : Name} (hname : Path.IsName name) :
    disk.walk location [name] =
      if maxNameLength < name.length then .error .nameTooLong else .ok (name :: location) := by
  rw [walk, h]
  simp only [hname.notIdle, Bool.false_eq_true, if_false, if_neg hname.notUp]
  rfl

theorem walk_of_keeps {disk later : Disk} (h : disk.Keeps later) {start location : Location}
    {parts : List Name} (hwalk : disk.walk start parts = .ok location) :
    later.walk start parts = .ok location := by
  -- A walk that succeeds only passes directories, and these are kept.
  fun_induction walk disk start parts with
  | case1 => exact hwalk
  | case2 => cases hwalk
  | case3 => cases hwalk
  | case4 start part rest hnode hidle ih =>
      rw [walk, h.directory start hnode]
      simpa only [hidle, if_true] using ih hwalk
  | case5 start rest hnode hidle ih =>
      rw [walk, h.directory start hnode]
      simpa only [hidle, Bool.false_eq_true, if_false, if_true] using ih hwalk
  | case6 => cases hwalk
  | case7 start part rest hnode hidle hup hlength ih =>
      rw [walk, h.directory start hnode]
      simpa only [hidle, Bool.false_eq_true, hup, hlength, if_false] using ih hwalk

theorem start_of_isAbsolute {disk : Disk} {p q : Path} (h : p.isAbsolute = q.isAbsolute) :
    disk.start p = disk.start q := by
  rw [start, h, start]

theorem Keeps.start_eq {disk later : Disk} (h : disk.Keeps later) (p : Path) :
    later.start p = disk.start p := by
  rw [start, h.current, start]

/-- A path that leads somewhere leads there as long as all directories are kept. -/
theorem Keeps.locate {disk later : Disk} (h : disk.Keeps later) {p : Path} {location : Location}
    (hlocate : disk.locate p = .ok location) : later.locate p = .ok location := by
  rw [Disk.locate] at hlocate ⊢
  rw [h.start_eq]
  cases hcheck : check p with
  | error fault =>
      rw [hcheck] at hlocate
      cases hlocate
  | ok =>
      rw [hcheck] at hlocate
      exact walk_of_keeps h hlocate

theorem LeadsToDirectory.of_keeps {disk later : Disk} (hkeeps : disk.Keeps later) {p : Path}
    {location : Location} (h : disk.LeadsToDirectory p location) :
    later.LeadsToDirectory p location :=
  ⟨hkeeps.locate h.locate_eq, hkeeps.directory location h.node?_eq⟩

theorem list_eq_ok_iff {disk : Disk} {p : Path} {names : List Name} :
    disk.list p = .ok names ↔
      ∃ location, disk.LeadsToDirectory p location ∧ disk.names location = names := by
  rw [list]
  constructor
  · intro h
    cases hlocate : disk.locate p with
    | error fault =>
        rw [hlocate] at h
        cases h
    | ok location =>
        simp only [hlocate, bind, Except.bind] at h
        split at h
        · cases h
        · cases h
        · next hnode => exact ⟨location, ⟨hlocate, hnode⟩, Except.ok.inj h⟩
  · rintro ⟨location, ⟨hlocate, hnode⟩, rfl⟩
    simp only [hlocate, bind, Except.bind, hnode]

theorem names_eq_filterMap_keys (disk : Disk) (place : Location) :
    disk.names place = (disk.entries.map Prod.fst).filterMap fun location =>
      match location with
      | [] => none
      | name :: parent => if parent = place then some name else none := by
  rw [names, List.filterMap_map]
  rfl

/-- A file that is written brings at most its own name into a directory. -/
theorem names_put (disk : Disk) (name : Name) (location place : Location) (node : Node) :
    (disk.put (name :: location) node).names place = disk.names place ∨
      (disk.put (name :: location) node).names place = disk.names place ++ [name] := by
  rw [names_eq_filterMap_keys, names_eq_filterMap_keys, put]
  rcases Entries.keys_put (name :: location) node disk.entries with hkeys | hkeys
  · left
    rw [hkeys]
  · rw [hkeys, List.filterMap_append]
    by_cases hplace : location = place
    · right
      simp [hplace]
    · left
      simp [hplace]

section Locate

variable {disk : Disk} {p : Path}

theorem check_of_locate {place : Location} (h : disk.locate p = .ok place) : check p = .ok () := by
  rw [locate] at h
  cases hcheck : check p with
  | error fault =>
      rw [hcheck] at h
      cases h
  | ok => rfl

theorem locate_of_read {content : List UInt8} (h : disk.read p = .ok content) :
    ∃ place, disk.locate p = .ok place := by
  rw [read] at h
  cases hlocate : disk.locate p with
  | error fault =>
      rw [hlocate] at h
      cases h
  | ok place => exact ⟨place, rfl⟩

theorem locate_of_readText {text : List Char} (h : disk.readText p = .ok text) :
    ∃ place, disk.locate p = .ok place := by
  rw [readText] at h
  cases hread : disk.read p with
  | error fault =>
      rw [hread] at h
      cases h
  | ok content => exact locate_of_read hread

end Locate

section PathOf

theorem pathOf_root : pathOf [] = ⟨[Path.slash]⟩ := rfl

theorem bytes_pathOf_cons (name : Name) (directory : Location) :
    (pathOf (name :: directory)).bytes =
      (directory.reverse.flatMap fun name => Path.slash :: name) ++ Path.slash :: name := by
  rw [pathOf, if_neg (List.cons_ne_nil _ _), List.reverse_cons, List.flatMap_append,
    List.flatMap_singleton]

theorem pathOf_cons {name : Name} (h : Path.IsName name) {directory : Location}
    (hdirectory : ∀ name ∈ directory, Path.IsName name) :
    pathOf (name :: directory) = (pathOf directory).join name := by
  have hbytes := bytes_pathOf_cons name directory
  rw [Path.join, if_neg (Path.head?_ne_slash h.noSlash)]
  cases directory with
  | nil =>
      rw [pathOf_root, if_pos (by decide)]
      exact congrArg Path.mk hbytes
  | cons inner above =>
      have hinner := hdirectory inner List.mem_cons_self
      have hend : ((pathOf (inner :: above)).bytes.isEmpty ||
          (pathOf (inner :: above)).bytes.getLast? == some Path.slash) = false := by
        rw [bytes_pathOf_cons, List.getLast?_append, List.getLast?_cons]
        cases hlast : inner.getLast? with
        | none =>
            rw [List.getLast?_eq_none_iff.1 hlast] at hinner
            exact absurd hinner.notIdle (by decide)
        | some last =>
            have hne : last ≠ Path.slash := by
              rintro rfl
              exact hinner.noSlash (List.mem_of_getLast? hlast)
            simp [hne]
      rw [hend, if_neg (by decide)]
      exact congrArg Path.mk hbytes

theorem isAbsolute_pathOf (directory : Location) : (pathOf directory).isAbsolute = true := by
  cases hreverse : directory.reverse with
  | nil =>
      rw [List.reverse_eq_nil_iff.1 hreverse]
      rfl
  | cons outer below =>
      have hne : directory ≠ [] := by
        rintro rfl
        cases hreverse
      rw [pathOf, if_neg hne, hreverse]
      rfl

/-- The path to a location goes up to that of its directory, and from the root nowhere. -/
theorem parent?_pathOf_cons {name : Name} (h : Path.IsName name) {directory : Location}
    (hdirectory : ∀ name ∈ directory, Path.IsName name) :
    (pathOf (name :: directory)).parent? = some (pathOf directory) := by
  rw [pathOf_cons h hdirectory, Path.parent?, Path.last?_join _ h,
    Path.isAbsolute_join _ h.noSlash, isAbsolute_pathOf]
  cases directory with
  | nil => rfl
  | cons inner above =>
      have hinner := hdirectory inner List.mem_cons_self
      have hsplit : Path.split (pathOf (inner :: above)).bytes =
          (inner :: (pathOf above).lead.reverse).reverse := by
        rw [pathOf_cons hinner fun name hname => hdirectory name (List.mem_cons_of_mem _ hname),
          Path.split_join _ hinner.noSlash, List.reverse_cons, List.reverse_reverse]
      have hne : inner ≠ [] := by
        rintro rfl
        exact absurd hinner.notIdle (by decide)
      have hkept : Path.glue (Path.dropIdle (pathOf (inner :: above)).lead.reverse).reverse =
          (pathOf (inner :: above)).bytes := by
        rw [Path.lead_of_split_eq hsplit hne, List.reverse_reverse,
          Path.dropIdle_cons_of_not_idle hinner.notIdle, ← hsplit, Path.glue_split]
      have hbytes : (pathOf (inner :: above)).bytes.isEmpty = false := by
        rw [bytes_pathOf_cons]
        simp
      simp only [hkept, hbytes, Bool.and_false, Bool.false_eq_true, if_false]

theorem check_eq_ok_iff {p : Path} : check p = .ok () ↔
    p.bytes ≠ [] ∧ 0 ∉ p.bytes ∧ p.bytes.length ≤ maxPathLength := by
  rw [check, ← List.isEmpty_eq_false_iff, ← Nat.not_lt]
  by_cases hempty : p.bytes.isEmpty <;> by_cases hzero : (0 : UInt8) ∈ p.bytes <;>
    by_cases hlength : maxPathLength < p.bytes.length <;> simp [hempty, hzero, hlength]

/-- What leaves out names of a path that is taken is taken as well. -/
theorem check_pathOf_of_sublist {location longer : Location} (hsub : location.Sublist longer)
    (h : check (pathOf longer) = .ok ()) : check (pathOf location) = .ok () := by
  by_cases hroot : location = []
  · rw [hroot]
    rfl
  · have hlonger : longer ≠ [] := by
      rintro rfl
      exact hroot (List.sublist_nil.1 hsub)
    have hbytes : (pathOf location).bytes.Sublist (pathOf longer).bytes := by
      rw [pathOf, pathOf, if_neg hroot, if_neg hlonger]
      exact hsub.reverse.flatMap _
    obtain ⟨-, hzero, hlength⟩ := check_eq_ok_iff.1 h
    refine check_eq_ok_iff.2 ⟨?_, fun hmem => hzero (hbytes.subset hmem),
      Nat.le_trans hbytes.length_le hlength⟩
    obtain ⟨name, above, rfl⟩ := List.exists_cons_of_ne_nil hroot
    rw [bytes_pathOf_cons]
    simp

end PathOf

section Child

variable {disk : Disk} {p directory : Path} {name : Name} {location : Location}

theorem LeadsToDirectory.walk_eq (h : disk.LeadsToDirectory directory location) :
    disk.walk (disk.start directory) (Path.split directory.bytes) = .ok location := by
  have hlocate := h.locate_eq
  rw [locate] at hlocate
  cases hcheck : check directory with
  | error fault =>
      rw [hcheck] at hlocate
      cases hlocate
  | ok =>
      rw [hcheck] at hlocate
      exact hlocate

/-- Where the path of a name in a directory leads does not depend on what else is on the disk. -/
theorem locate_of_isChild (h : disk.LeadsToDirectory directory location)
    (hname : Path.IsName name) (hchild : Path.IsChild p directory name) :
    disk.locate p = child p name location := by
  obtain ⟨habsolute, lead, hsplit, hlead⟩ := hchild
  have hwalk : disk.walk (disk.start p) (Path.split p.bytes) = disk.walk location [name] := by
    rw [start_of_isAbsolute habsolute, hsplit, ← walk_of_sameLead _ _ hlead, walk_append,
      h.walk_eq]
    rfl
  rw [locate, hwalk, walk_name h.node?_eq hname]
  rfl

theorem locateNew_of_isChild (hname : Path.IsName name)
    (hchild : Path.IsChild p directory name) : disk.locateNew p = disk.locate p := by
  obtain ⟨_, lead, hsplit, _⟩ := hchild
  have hne : name.isEmpty = false := by
    have hidle := hname.notIdle
    rw [Path.isIdle, Bool.or_eq_false_iff] at hidle
    exact hidle.1
  have hparts : ((Path.split p.bytes).reverse.dropWhile List.isEmpty).reverse =
      Path.split p.bytes := by
    rw [hsplit]
    simp [hne]
  rw [locateNew, hparts, locate]

theorem getLast?_ne_of_isChild (hname : Path.IsName name)
    (hchild : Path.IsChild p directory name) : p.bytes.getLast? ≠ some Path.slash := by
  obtain ⟨_, lead, hsplit, _⟩ := hchild
  intro hlast
  obtain ⟨front, hfront⟩ := List.getLast?_eq_some_iff.1 hlast
  rw [hfront, Path.split, Text.split_append] at hsplit
  have hempty : [[]] = [name] := (List.append_inj' hsplit rfl).2
  have hidle := hname.notIdle
  rw [← List.singleton_inj.1 hempty] at hidle
  cases hidle

theorem eq_of_child {place : Location} (h : child p name location = .ok place) :
    place = name :: location := by
  rw [child] at h
  cases hcheck : check p with
  | error fault =>
      rw [hcheck] at h
      cases h
  | ok =>
      rw [hcheck] at h
      by_cases hlength : maxNameLength < name.length
      · simp [hlength, bind, Except.bind] at h
      · simpa [hlength, bind, Except.bind, eq_comm] using h

theorem length_le_of_child {place : Location} (h : child p name location = .ok place) :
    name.length ≤ maxNameLength := by
  rw [child] at h
  cases hcheck : check p with
  | error fault =>
      rw [hcheck] at h
      cases h
  | ok =>
      rw [hcheck] at h
      refine Nat.le_of_not_lt fun hlength => ?_
      simp [hlength, bind, Except.bind] at h

theorem read_of_locate {place : Location} {content : List UInt8} (h : disk.locate p = .ok place)
    (hnode : disk.node? place = some (.file content)) : disk.read p = .ok content := by
  rw [read, h]
  simp only [bind, Except.bind, hnode]

/-- Reading in a directory depends only on what has the name. -/
theorem read_congr_of_isChild {later : Disk} (h : disk.LeadsToDirectory directory location)
    (h' : later.LeadsToDirectory directory location) (hname : Path.IsName name)
    (hchild : Path.IsChild p directory name)
    (hnode : later.node? (name :: location) = disk.node? (name :: location)) :
    later.read p = disk.read p := by
  rw [read, read, locate_of_isChild h hname hchild, locate_of_isChild h' hname hchild]
  cases hplace : child p name location with
  | error fault => rfl
  | ok place =>
      rw [eq_of_child hplace]
      simp only [bind, Except.bind, hnode]

/-- Writing in a directory fails on what cannot be a path, or on a directory of the same name. -/
theorem write_of_isChild (h : disk.LeadsToDirectory directory location)
    (hname : Path.IsName name) (hchild : Path.IsChild p directory name) (content : List UInt8) :
    disk.write p content = child p name location >>= fun place =>
      if disk.node? place = some .directory then .error .isDirectory
      else .ok (disk.put place (.file content)) := by
  rw [write, locateNew_of_isChild hname hchild, locate_of_isChild h hname hchild]
  congr 1
  funext place
  rw [if_neg (getLast?_ne_of_isChild hname hchild)]
  cases hnode : disk.node? place with
  | none => rfl
  | some node => cases node <;> simp

/-- Writing in a directory goes the same way on two disks on which the same directories are. -/
theorem write_cases {later : Disk} (h : disk.LeadsToDirectory directory location)
    (h' : later.LeadsToDirectory directory location) (hname : Path.IsName name)
    (hchild : Path.IsChild p directory name)
    (hnode : later.node? (name :: location) = some .directory ↔
      disk.node? (name :: location) = some .directory) (content : List UInt8) :
    (∃ fault, disk.write p content = .error fault ∧ later.write p content = .error fault) ∨
      disk.locate p = .ok (name :: location) ∧
        disk.node? (name :: location) ≠ some .directory ∧
        disk.write p content = .ok (disk.put (name :: location) (.file content)) ∧
        later.write p content = .ok (later.put (name :: location) (.file content)) := by
  rw [write_of_isChild h hname hchild, write_of_isChild h' hname hchild,
    locate_of_isChild h hname hchild]
  cases hplace : child p name location with
  | error fault => exact .inl ⟨fault, rfl, rfl⟩
  | ok place =>
      obtain rfl := eq_of_child hplace
      by_cases hdirectory : disk.node? (name :: location) = some .directory
      · refine .inl ⟨.isDirectory, ?_, ?_⟩
        · exact if_pos hdirectory
        · exact if_pos (hnode.2 hdirectory)
      · refine .inr ⟨rfl, hdirectory, ?_, ?_⟩
        · exact if_neg hdirectory
        · exact if_neg fun hlater => hdirectory (hnode.1 hlater)

end Child

theorem noSlash_of_walk {disk : Disk} {start location : Location} {parts : List Name}
    (hstart : ∀ name ∈ start, Path.slash ∉ name) (hparts : ∀ part ∈ parts, Path.slash ∉ part)
    (h : disk.walk start parts = .ok location) : ∀ name ∈ location, Path.slash ∉ name := by
  fun_induction walk disk start parts with
  | case1 => cases h; exact hstart
  | case2 => cases h
  | case3 => cases h
  | case4 start part rest hnode hidle ih =>
      exact ih hstart (fun p hp => hparts p (List.mem_cons_of_mem _ hp)) h
  | case5 start rest hnode hidle ih =>
      exact ih (fun n hn => hstart n (List.mem_of_mem_tail hn))
        (fun p hp => hparts p (List.mem_cons_of_mem _ hp)) h
  | case6 => cases h
  | case7 start part rest hnode hidle hup hlength ih =>
      refine ih ?_ (fun p hp => hparts p (List.mem_cons_of_mem _ hp)) h
      intro name hname
      rcases List.mem_cons.1 hname with rfl | hname
      · exact hparts name List.mem_cons_self
      · exact hstart name hname

namespace WellNamed

variable {disk : Disk} {location : Location}

/-- Where a path leads has no slashes in its names. -/
theorem noSlash_of_leads (h : disk.WellNamed) {p : Path}
    (hleads : disk.LeadsToDirectory p location) : ∀ name ∈ location, Path.slash ∉ name := by
  apply noSlash_of_walk _ _ hleads.walk_eq
  · rw [start]
    split
    · simp
    · exact h.current
  · intro part hpart
    exact Text.not_mem_of_mem_split hpart

theorem put (h : disk.WellNamed) (hlocation : ∀ name ∈ location, Path.slash ∉ name) (node : Node) :
    (disk.put location node).WellNamed := by
  refine ⟨?_, h.current⟩
  intro entry hentry
  rcases Entries.mem_put hentry with rfl | hold
  · exact hlocation
  · exact h.entries entry hold

theorem noSlash_of_mem_names (h : disk.WellNamed) {name : Name}
    (hname : name ∈ disk.names location) : Path.slash ∉ name := by
  obtain ⟨⟨place, node⟩, hentry, hmatch⟩ := List.mem_filterMap.1 hname
  cases place with
  | nil => cases hmatch
  | cons first parent =>
      by_cases hparent : parent = location
      · simp only [hparent, if_true, Option.some.injEq] at hmatch
        rw [← hmatch]
        exact h.entries _ hentry first List.mem_cons_self
      · simp only [hparent, if_false] at hmatch
        cases hmatch

end WellNamed

end Disk

end BenchChart
