import BenchChart.Config.Layers
import BenchChart.Proofs.Disk
import Mathlib.Data.List.Infix

/-!
# The project's configuration file

The search goes up the path of the current directory, part by part, for as long as there is a
parent. As a location has the location of its directory as its tail, the directories that it passes
are the suffixes of the current one, the root last, and `Nearest` says in which of them it ends.
Deep down, where the path of the file would be too long for the system, a file is not seen.
-/

namespace BenchChart

namespace Config

variable {disk other : Disk} {start directory : Location} {content : List UInt8}

/-- The system takes the path of the configuration file that a directory may have. -/
def Fits (directory : Location) : Prop :=
  (Disk.pathOf (localName :: directory)).bytes.length ≤ Disk.maxPathLength

instance (directory : Location) : Decidable (Fits directory) := inferInstanceAs (Decidable (_ ≤ _))

/-- The content of the configuration file in a directory, if it has a path that the system takes.
What has the name of the file but is a directory itself does not count. -/
def content? (disk : Disk) (directory : Location) : Option (List UInt8) :=
  if Fits directory then
    match disk.node? (localName :: directory) with
    | some (.file content) => some content
    | _ => none
  else none

/-- Of a directory and those above it, the nearest one with a configuration file. -/
structure Nearest (disk : Disk) (start directory : Location) (content : List UInt8) : Prop where
  onWay : directory <:+ start
  content_eq : content? disk directory = some content
  below : ∀ nearer, nearer <:+ start → directory.length < nearer.length →
    content? disk nearer = none

theorem content?_eq_some_iff : content? disk directory = some content ↔
    Fits directory ∧ disk.node? (localName :: directory) = some (.file content) := by
  rw [content?]
  by_cases hfits : Fits directory
  · rw [if_pos hfits]
    cases disk.node? (localName :: directory) with
    | none => simp
    | some node => cases node <;> simp [hfits]
  · simp [hfits]

theorem nearest_of_content? (hown : content? disk start = some content) :
    Nearest disk start start content :=
  ⟨List.suffix_rfl, hown, fun _ hway hlength => absurd hway.length_le (Nat.not_le.2 hlength)⟩

theorem Nearest.cons {name : Name} {above : Location}
    (hnone : content? disk (name :: above) = none) (h : Nearest disk above directory content) :
    Nearest disk (name :: above) directory content := by
  refine ⟨h.onWay.trans (List.suffix_cons name above), h.content_eq,
    fun nearer hnearer hlength => ?_⟩
  rcases List.suffix_cons_iff.1 hnearer with rfl | hnearer
  · exact hnone
  · exact h.below nearer hnearer hlength

theorem Nearest.unique {directory' : Location} {content' : List UInt8}
    (h : Nearest disk start directory content) (h' : Nearest disk start directory' content') :
    directory = directory' ∧ content = content' := by
  have hlength : ∀ {d e : Location} {c c' : List UInt8}, Nearest disk start d c →
      Nearest disk start e c' → e.length ≤ d.length := by
    intro d e c c' hd he
    refine Nat.le_of_not_lt fun hlt => ?_
    have hnone := hd.below e he.onWay hlt
    rw [he.content_eq] at hnone
    cases hnone
  obtain rfl : directory = directory' :=
    (List.suffix_of_suffix_length_le h.onWay h'.onWay (hlength h' h)).eq_of_length_le (hlength h h')
  exact ⟨rfl, Option.some.inj (h.content_eq.symm.trans h'.content_eq)⟩

theorem Nearest.not_missing (h : Nearest disk start directory content) :
    ¬∀ directory, directory <:+ start → content? disk directory = none := by
  intro hall
  have hnone := hall directory h.onWay
  rw [h.content_eq] at hnone
  cases hnone

/-- What is not seen on the way makes no difference. -/
theorem nearest_of_agree
    (hagree : ∀ directory, directory <:+ start →
      content? other directory ≠ content? disk directory →
      ∃ found content, Nearest disk start found content ∧ directory.length < found.length)
    (h : Nearest disk start directory content) : Nearest other start directory content := by
  have hsame : ∀ nearer, nearer <:+ start → directory.length ≤ nearer.length →
      content? other nearer = content? disk nearer := by
    intro nearer hway hlength
    by_contra hne
    obtain ⟨found, content', hfound, hlt⟩ := hagree nearer hway hne
    obtain ⟨rfl, rfl⟩ := h.unique hfound
    omega
  refine ⟨h.onWay, ?_, fun nearer hway hlength => ?_⟩
  · rw [hsame directory h.onWay (Nat.le_refl _), h.content_eq]
  · rw [hsame nearer hway (Nat.le_of_lt hlength), h.below nearer hway hlength]

/-- A location and those above it are directories, with names that the system takes. -/
structure Reached (disk : Disk) (location : Location) : Prop where
  directory : ∀ directory, directory <:+ location → disk.node? directory = some .directory
  isName : ∀ name ∈ location, Path.IsName name
  noZero : ∀ name ∈ location, 0 ∉ name
  length_le : ∀ name ∈ location, name.length ≤ Disk.maxNameLength

theorem isName_localName : Path.IsName localName := ⟨by decide, by decide, by decide⟩

/-- A directory leaves as much room as those below it. -/
theorem Fits.of_suffix {longer : Location} (hfits : Fits longer) (hway : directory <:+ longer) :
    Fits directory := by
  refine Nat.le_trans ?_ hfits
  rw [Disk.bytes_pathOf_cons, Disk.bytes_pathOf_cons, List.length_append, List.length_append]
  exact Nat.add_le_add_right (hway.sublist.reverse.flatMap _).length_le _

namespace Reached

variable {location : Location} {name : Name}

theorem pathOf_localName (h : Reached disk location) :
    Disk.pathOf (localName :: location) = (Disk.pathOf location).join localName :=
  Disk.pathOf_cons isName_localName h.isName

theorem of_suffix (h : Reached disk location) (hway : directory <:+ location) :
    Reached disk directory where
  directory d hd := h.directory d (hd.trans hway)
  isName n hn := h.isName n (hway.subset hn)
  noZero n hn := h.noZero n (hway.subset hn)
  length_le n hn := h.length_le n (hway.subset hn)

theorem above (h : Reached disk (name :: location)) : Reached disk location :=
  h.of_suffix (List.suffix_cons name location)

theorem check_eq (h : Reached disk location) (hfits : Fits location) :
    Disk.check (Disk.pathOf (localName :: location)) = .ok () := by
  refine Disk.check_eq_ok_iff.2 ⟨?_, ?_, hfits⟩
  · rw [Disk.bytes_pathOf_cons]
    simp
  · rw [Disk.bytes_pathOf_cons, List.mem_append, not_or, List.mem_flatMap]
    refine ⟨?_, by decide⟩
    rintro ⟨name, hname, hzero⟩
    rcases List.mem_cons.1 hzero with hslash | hzero
    · cases hslash
    · exact h.noZero name (List.mem_reverse.1 hname) hzero

theorem check_pathOf (h : Reached disk location) (hfits : Fits location) :
    Disk.check (Disk.pathOf location) = .ok () :=
  Disk.check_pathOf_of_sublist (List.sublist_cons_self localName location) (h.check_eq hfits)

/-- Directories are reached one after the other, from the root on. -/
theorem leads (h : Reached disk location) (hfits : Fits location) :
    disk.LeadsToDirectory (Disk.pathOf location) location := by
  refine ⟨?_, h.directory location List.suffix_rfl⟩
  induction location with
  | nil => rfl
  | cons name above ih =>
      have habove := h.above
      have hname := h.isName name List.mem_cons_self
      have hparent : disk.LeadsToDirectory (Disk.pathOf above) above :=
        ⟨ih habove (hfits.of_suffix (List.suffix_cons name above)),
          habove.directory above List.suffix_rfl⟩
      have hlength := Nat.not_lt.2 (h.length_le name List.mem_cons_self)
      rw [Disk.pathOf_cons hname habove.isName, Disk.locate_of_isChild hparent hname
        (Path.isChild_join _ hname.noSlash), Disk.child, ← Disk.pathOf_cons hname habove.isName,
        h.check_pathOf hfits, if_neg hlength]
      rfl

/-- The configuration file of a directory is read by its path. -/
theorem read_eq_ok_iff (h : Reached disk location) :
    disk.read (Disk.pathOf (localName :: location)) = .ok content ↔
      content? disk location = some content := by
  rw [content?_eq_some_iff]
  by_cases hfits : Fits location
  · have hlocate : disk.locate (Disk.pathOf (localName :: location)) =
        .ok (localName :: location) := by
      rw [h.pathOf_localName, Disk.locate_of_isChild (h.leads hfits) isName_localName
        (Path.isChild_join _ isName_localName.noSlash), Disk.child, ← h.pathOf_localName,
        h.check_eq hfits]
      rfl
    rw [Disk.read, hlocate]
    simp only [bind, Except.bind, hfits, true_and]
    cases disk.node? (localName :: location) with
    | none => simp
    | some node => cases node <;> simp
  · refine iff_of_false (fun hread => ?_) fun hfile => hfits hfile.1
    -- Reading begins with a check of the path, which its length does not pass.
    obtain ⟨place, hplace⟩ := Disk.locate_of_read hread
    exact hfits (Disk.check_eq_ok_iff.1 (Disk.check_of_locate hplace)).2.2

theorem isFile_eq (h : Reached disk location) :
    disk.isFile ((Disk.pathOf location).join localName) = (content? disk location).isSome := by
  rw [← h.pathOf_localName, Bool.eq_iff_iff, Option.isSome_iff_exists]
  simp only [← h.read_eq_ok_iff]
  rw [Disk.isFile]
  cases disk.read (Disk.pathOf (localName :: location)) <;> simp

theorem searchUp_of_content? (h : Reached disk location)
    (hown : content? disk location = some content) :
    searchUp disk (Disk.pathOf location) = some (Disk.pathOf (localName :: location)) := by
  rw [searchUp, h.isFile_eq, hown, h.pathOf_localName]
  rfl

theorem searchUp_root (h : Reached disk []) (hnone : content? disk [] = none) :
    searchUp disk (Disk.pathOf []) = none := by
  rw [searchUp, h.isFile_eq, hnone]
  rfl

theorem searchUp_cons (h : Reached disk (name :: location))
    (hnone : content? disk (name :: location) = none) :
    searchUp disk (Disk.pathOf (name :: location)) = searchUp disk (Disk.pathOf location) := by
  have hparent := Disk.parent?_pathOf_cons (h.isName name List.mem_cons_self) h.above.isName
  rw [searchUp, h.isFile_eq, hnone, if_neg (by decide)]
  split
  · next hmissing =>
      rw [hparent] at hmissing
      cases hmissing
  · next parent hsome =>
      rw [hparent] at hsome
      rw [Option.some.inj hsome]

/-- The search ends at the nearest configuration file, or has passed the root. -/
theorem searchUp_cases (h : Reached disk location) :
    (∃ directory content, Nearest disk location directory content ∧
      searchUp disk (Disk.pathOf location) = some (Disk.pathOf (localName :: directory))) ∨
    (∀ directory, directory <:+ location → content? disk directory = none) ∧
      searchUp disk (Disk.pathOf location) = none := by
  -- The root is the last directory on the way up and the first one here.
  induction location with
  | nil =>
      cases hown : content? disk [] with
      | some own => exact .inl ⟨[], own, nearest_of_content? hown, h.searchUp_of_content? hown⟩
      | none =>
          refine .inr ⟨fun directory hway => ?_, h.searchUp_root hown⟩
          rw [List.suffix_nil.1 hway, hown]
  | cons name above ih =>
      cases hown : content? disk (name :: above) with
      | some own => exact .inl ⟨_, own, nearest_of_content? hown, h.searchUp_of_content? hown⟩
      | none =>
          rw [h.searchUp_cons hown]
          rcases ih h.above with ⟨directory, content, hnearest, hfound⟩ | ⟨hall, hmissing⟩
          · exact .inl ⟨directory, content, hnearest.cons hown, hfound⟩
          · refine .inr ⟨fun directory hway => ?_, hmissing⟩
            rcases List.suffix_cons_iff.1 hway with rfl | hway
            · exact hown
            · exact hall directory hway

end Reached

section Local

variable (h : Reached disk disk.current)

include h

theorem localFile?_cases :
    (∃ directory content, Nearest disk disk.current directory content ∧
      localFile? disk = some (Disk.pathOf (localName :: directory), content)) ∨
    (∀ directory, directory <:+ disk.current → content? disk directory = none) ∧
      localFile? disk = none := by
  rcases h.searchUp_cases with ⟨directory, content, hnearest, hfound⟩ | ⟨hall, hnone⟩
  · refine .inl ⟨directory, content, hnearest, ?_⟩
    have hread := (h.of_suffix hnearest.onWay).read_eq_ok_iff.2 hnearest.content_eq
    rw [localFile?, hfound, Option.bind_some, file?, hread]
  · exact .inr ⟨hall, by rw [localFile?, hnone, Option.bind_none]⟩

theorem localFile?_eq_of_nearest (hnearest : Nearest disk disk.current directory content) :
    localFile? disk = some (Disk.pathOf (localName :: directory), content) := by
  rcases localFile?_cases h with ⟨found, content', hnearest', hfound⟩ | ⟨hall, -⟩
  · obtain ⟨rfl, rfl⟩ := hnearest.unique hnearest'
    exact hfound
  · exact absurd hall hnearest.not_missing

theorem localFile?_eq_none_iff : localFile? disk = none ↔
    ∀ directory, directory <:+ disk.current → content? disk directory = none := by
  rcases localFile?_cases h with ⟨found, content, hnearest, hfound⟩ | ⟨hall, hnone⟩
  · exact iff_of_false (by rw [hfound]; exact Option.some_ne_none _) hnearest.not_missing
  · exact iff_of_true hnone hall

theorem searchUp_eq_localFile? :
    searchUp disk (Disk.pathOf disk.current) = (localFile? disk).map Prod.fst := by
  rcases h.searchUp_cases with ⟨directory, content, hnearest, hfound⟩ | ⟨hall, hnone⟩
  · rw [hfound, localFile?_eq_of_nearest h hnearest]
    rfl
  · rw [hnone, (localFile?_eq_none_iff h).2 hall]
    rfl

theorem localFile?_congr (hcurrent : other.current = disk.current)
    (hother : Reached other other.current)
    (hagree : ∀ directory, directory <:+ disk.current →
      content? other directory ≠ content? disk directory →
      ∃ found content, Nearest disk disk.current found content ∧
        directory.length < found.length) :
    localFile? other = localFile? disk := by
  rcases localFile?_cases h with ⟨found, content, hnearest, hfound⟩ | ⟨hall, hnone⟩
  · rw [hfound]
    apply localFile?_eq_of_nearest hother
    rw [hcurrent]
    exact nearest_of_agree hagree hnearest
  · rw [hnone, localFile?_eq_none_iff hother, hcurrent]
    intro directory hway
    rw [← hall directory hway]
    by_contra hne
    obtain ⟨found, content, hnearest, -⟩ := hagree directory hway hne
    exact hnearest.not_missing hall

end Local

/-- The configuration file of the project is that of the nearest directory, from the current one
upwards to the root, that has one with a path that the system takes, and it is missing if none of
them has. It stays the same whatever else is on the disk, and whatever the directories further up
have. Where the path of a file in the current directory is not too long, no file is missed. -/
theorem localFile?_nearest (disk : Disk) (hreached : Reached disk disk.current) :
    (∀ path content, localFile? disk = some (path, content) ↔
      ∃ directory, Nearest disk disk.current directory content ∧
        path = Disk.pathOf (localName :: directory)) ∧
      (localFile? disk = none ↔
        ∀ directory, directory <:+ disk.current → content? disk directory = none) ∧
      searchUp disk (Disk.pathOf disk.current) = (localFile? disk).map Prod.fst ∧
      (∀ other : Disk, other.current = disk.current → Reached other other.current →
        (∀ directory, directory <:+ disk.current →
          content? other directory ≠ content? disk directory →
          ∃ found content, Nearest disk disk.current found content ∧
            directory.length < found.length) →
        localFile? other = localFile? disk) ∧
      (Fits disk.current → ∀ directory, directory <:+ disk.current → ∀ content,
        content? disk directory = some content ↔
          disk.node? (localName :: directory) = some (.file content)) := by
  refine ⟨fun path content => ⟨fun hlocal => ?_, ?_⟩, localFile?_eq_none_iff hreached,
    searchUp_eq_localFile? hreached, fun other => localFile?_congr hreached, ?_⟩
  · rcases localFile?_cases hreached with ⟨directory, own, hnearest, hfound⟩ | ⟨-, hnone⟩
    · rw [hlocal] at hfound
      obtain ⟨rfl, rfl⟩ := Prod.mk.inj (Option.some.inj hfound)
      exact ⟨directory, hnearest, rfl⟩
    · rw [hlocal] at hnone
      cases hnone
  · rintro ⟨directory, hnearest, rfl⟩
    exact localFile?_eq_of_nearest hreached hnearest
  · intro hfits directory hway content
    rw [content?_eq_some_iff, and_iff_right (hfits.of_suffix hway)]

/-- A directory of the file's name is passed over, and a file further up than the one that is found
can come and go. -/
theorem localFile?_nearest_of_directory_on_the_way :
    let work : Location := [[0x77]]
    let deep : Location := [0x64] :: [0x72] :: work
    let disk : Disk := ⟨[(work, .directory), ([0x72] :: work, .directory), (deep, .directory),
      (localName :: deep, .directory), (localName :: work, .file [0x61])], deep⟩
    let other := disk.put [localName] (.file [0x62])
    Reached disk deep ∧ Reached other deep ∧
      localFile? disk = some (Disk.pathOf (localName :: work), [0x61]) ∧
      content? other [] ≠ content? disk [] ∧ localFile? other = localFile? disk := by
  intro work deep disk other
  have hway : ∀ {P : Location → Prop}, (∀ d ∈ deep.tails, P d) → ∀ d, d <:+ deep → P d :=
    fun h d hd => h d ((List.mem_tails _ _).2 hd)
  have hname : ∀ b : UInt8, b ≠ Path.slash → b ≠ 0x2E → Path.IsName [b] := fun b hb hdot =>
    Path.isName_cons (by simpa using hb.symm) hdot
  have hnames : ∀ name ∈ deep, Path.IsName name := by
    simp only [deep, work, List.forall_mem_cons]
    exact ⟨hname _ (by decide) (by decide), hname _ (by decide) (by decide),
      hname _ (by decide) (by decide), by simp⟩
  have hreached : Reached disk deep :=
    ⟨hway (by decide +kernel), hnames, by decide +kernel, by decide +kernel⟩
  have hother : Reached other deep :=
    ⟨hway (by decide +kernel), hnames, by decide +kernel, by decide +kernel⟩
  obtain ⟨hfound, -, -, hsame, -⟩ := localFile?_nearest disk hreached
  have hnearest : Nearest disk deep work [0x61] :=
    ⟨by decide +kernel, by decide +kernel, hway (by decide +kernel)⟩
  have habove : ∀ d, d <:+ deep → content? other d ≠ content? disk d → d.length < work.length :=
    hway (by decide +kernel)
  refine ⟨hreached, hother, (hfound _ _).2 ⟨work, hnearest, rfl⟩, by decide +kernel,
    hsame other rfl hother fun d hd hne => ?_⟩
  exact ⟨work, [0x61], hnearest, habove d hd hne⟩

/-- In a directory whose path has 4080 bytes, the configuration file is there and is not found. -/
theorem localFile?_of_long_path :
    let name : Name := List.replicate 254 0x61
    let deep : Location := List.replicate 16 name
    let disk : Disk := ⟨(localName :: deep, .file []) ::
      (List.range 16).map fun n => (List.replicate (n + 1) name, .directory), deep⟩
    Reached disk deep ∧ (Disk.pathOf deep).bytes.length = 4080 ∧
      disk.node? (localName :: deep) = some (.file []) ∧
      searchUp disk (Disk.pathOf deep) = none ∧ localFile? disk = none := by
  intro name deep disk
  have hentry : ∀ place node, disk.node? place = some node → place ≠ [] →
      place = localName :: deep ∨ node = .directory := by
    intro place node hnode hne
    rw [Disk.node?, if_neg hne] at hnode
    rcases List.mem_cons.1 (Entries.mem_of_lookup hnode) with hfile | hdirectory
    · exact .inl (Prod.mk.inj hfile).1
    · obtain ⟨_, -, heq⟩ := List.mem_map.1 hdirectory
      exact .inr (Prod.mk.inj heq).2.symm
  have hdirectory : ∀ place, place <:+ deep → disk.node? place = some .directory := by
    intro place hway
    obtain ⟨hlength, hplace⟩ := List.suffix_replicate_iff.1 hway
    cases hn : place.length with
    | zero => rw [List.length_eq_zero_iff.1 hn, Disk.node?_root]
    | succ n =>
        rw [hn] at hlength hplace
        have hsome : (disk.node? place).isSome := by
          rw [Disk.node?, if_neg (List.ne_nil_of_length_eq_add_one hn), List.lookup_isSome_iff]
          refine ⟨_, List.mem_cons_of_mem _ (List.mem_map_of_mem (List.mem_range.2 hlength)), ?_⟩
          exact beq_iff_eq.2 hplace
        obtain ⟨node, hnode⟩ := Option.isSome_iff_exists.1 hsome
        rcases hentry place node hnode (List.ne_nil_of_length_eq_add_one hn) with rfl | rfl
        · exact absurd hway.length_le (Nat.not_succ_le_self _)
        · exact hnode
  have hname : ∀ other ∈ deep, other = name := fun _ => List.eq_of_mem_replicate
  have hbytes : ∀ b ∈ name, b = 0x61 := fun _ => List.eq_of_mem_replicate
  have hreached : Reached disk deep := by
    refine ⟨hdirectory, fun other h => ?_, fun other h => ?_, fun other h => ?_⟩ <;>
      rw [hname other h]
    · exact Path.isName_cons (fun hslash => absurd (hbytes _ hslash) (by decide)) (by decide)
    · exact fun hzero => absurd (hbytes 0 hzero) (by decide)
    · exact Nat.le_trans (Nat.le_of_eq List.length_replicate) (by decide)
  have hlong : ¬Fits deep := by decide +kernel
  have hnone : localFile? disk = none := by
    refine (localFile?_eq_none_iff hreached).2 fun place hway => ?_
    rw [Option.eq_none_iff_forall_ne_some]
    intro content hcontent
    obtain ⟨hfits, hnode⟩ := content?_eq_some_iff.1 hcontent
    rcases hentry _ _ hnode (List.cons_ne_nil _ _) with hplace | hfile
    · rw [(List.cons.inj hplace).2] at hfits
      exact hlong hfits
    · cases hfile
  refine ⟨hreached, by decide +kernel, by decide +kernel, ?_, hnone⟩
  exact (searchUp_eq_localFile? hreached).trans (by rw [hnone]; rfl)

end Config

end BenchChart
