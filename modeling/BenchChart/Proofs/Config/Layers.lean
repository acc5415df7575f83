import BenchChart.Program
import BenchChart.Proofs.Config.Documents

/-!
# What the two configuration files say together

`Layers` has the trees of the two files, each read on its own, and says how the fields of the chart
and the directory of the logs follow from them. The program reads the same off the project's tree
laid over the user's: there a setting is perhaps one that was laid over another, and converting it
does not tell the difference (`Over`).
-/

namespace BenchChart

theorem Settings.supported_eq (s : Settings) : s.supported =
    if s.width < 640 ∨ s.height < 480 then { s with width := 1280, height := 960 } else s := by
  have hsmall : s.isSupported = false ↔ s.width < 640 ∨ s.height < 480 := by
    rw [isSupported, decide_eq_false_iff_not, Decidable.not_and_iff_or_not, UInt32.not_le,
      UInt32.not_le]
    rfl
  rw [supported]
  split
  · next h => rw [if_neg fun hlt => by rw [hsmall.2 hlt] at h; cases h]
  · next h =>
      rw [if_pos (hsmall.1 (Bool.eq_false_iff.2 h))]
      rfl

namespace Config

structure Layers where
  user : Setting
  project : Setting

/-- The tree of a configuration file. One that does not exist sets nothing. -/
def treeOf (file : Option (Path × List UInt8)) : Except Error Setting := do
  return Setting.ofDocuments (← file.toList.mapM document)

def layers (disk : Disk) (env : Environment) : Except Error Layers := do
  return ⟨← treeOf (userFile? disk env), ← treeOf (localFile? disk)⟩

namespace Layers

/-- Whether the project sets a group to what is no table. -/
def hides (layers : Layers) (group : String) : Bool :=
  (layers.project.get? group).any (!·.isTable)

/-- What a group has under a name: what the project sets, or else the user. -/
def field? (layers : Layers) (group name : String) : Option Setting :=
  if layers.hides group then none
  else (layers.project.find? [group, name]).or (layers.user.find? [group, name])

/-- The chart, of which only the kind counts if both files set it. -/
def chart? (layers : Layers) : Option Setting :=
  (layers.project.get? "chart").or (layers.user.get? "chart")

/-- A field of the chart, by its position if the chart is an array. -/
def chartField? (layers : Layers) (name : String) (position : Nat) : Option Setting :=
  match layers.chart? with
  | some (.array items) => items[position]?
  | _ => layers.field? "chart" name

/-- A field of the chart converted, or its default if neither file sets it. -/
def chartFieldOr {α : Type} (layers : Layers) (default : α)
    (convert : String → Setting → Except Error α) (name : String) (position : Nat) :
    Except Error α :=
  match layers.chartField? name position with
  | none => .ok default
  | some s => convert ("chart." ++ name) s

/-- The fields of the chart, if all of them can be converted. -/
def fields (layers : Layers) : Except Error Settings :=
  if layers.chart?.all Setting.hasFields then do
    let width ← layers.chartFieldOr 1280 Setting.pixels "width" 0
    let height ← layers.chartFieldOr 960 Setting.pixels "height" 1
    let missRatioLimit ← layers.chartFieldOr none Setting.limit "miss_ratio_ylim" 2
    let loadAdmitLimit ← layers.chartFieldOr none Setting.limit "load_admit_ylim" 3
    let rateLimit ← layers.chartFieldOr none Setting.limit "throughput_ylim" 4
    return { width, height, missRatioLimit, loadAdmitLimit, rateLimit }
  else .error (.unconvertible "chart" "a table")

/-- The settings of charts. One field that cannot be converted undoes them all; a size that is too
small only the size. -/
def settings (layers : Layers) : Settings :=
  match layers.fields with
  | .error _ => ⟨1280, 960, none, none, none⟩
  | .ok s => if s.width < 640 ∨ s.height < 480 then { s with width := 1280, height := 960 } else s

def directory (layers : Layers) : String :=
  ((layers.field? "input" "directory").bind Setting.text?).getD "result"

end Layers

namespace Setting

/-- The same value, perhaps laid over something. -/
inductive Over : Option Setting → Option Setting → Prop
  | same (place : Option Setting) : Over place place
  | laid (base s : Setting) : Over (some (overlay base s)) (some s)

/-- What is the same for all tables does not depend on what a setting was laid over. -/
theorem apply_overlay {α : Type} {f : Setting → α} (hf : ∀ es es', f (.table es) = f (.table es'))
    (base s : Setting) : f (overlay base s) = f s := by
  cases s with
  | table entries => rw [overlay_table, hf]
  | _ => rw [overlay]

theorem pixels_overlay (key : String) : ∀ base s, pixels key (overlay base s) = pixels key s :=
  apply_overlay fun _ _ => rfl

theorem limit_overlay (key : String) : ∀ base s, limit key (overlay base s) = limit key s :=
  apply_overlay fun _ _ => rfl

theorem text?_overlay : ∀ base s, (overlay base s).text? = s.text? :=
  apply_overlay fun _ _ => rfl

theorem hasFields_overlay : ∀ base s, (overlay base s).hasFields = s.hasFields :=
  apply_overlay fun _ _ => rfl

theorem overlay_eq_array_iff {base s : Setting} {items : List Setting} :
    overlay base s = .array items ↔ s = .array items := by
  cases s with
  | table => simp [overlay_table]
  | _ => rw [overlay]

theorem field?_of_ne_array {s : Setting} (h : ∀ items, s ≠ .array items) (name : String)
    (position : Nat) : s.field? name position = s.get? name := by
  cases s with
  | array items => exact absurd rfl (h items)
  | _ => rfl

theorem exists_table_of_find? {s t : Setting} {group name : String}
    (h : s.find? [group, name] = some t) : ∃ g, s.get? group = some g ∧ g.isTable = true := by
  obtain ⟨g, hg, hname⟩ := Option.bind_eq_some_iff.1 h
  refine ⟨g, hg, ?_⟩
  cases hleaf : g.isTable with
  | true => rfl
  | false =>
      rw [find?_singleton, get?_of_isTable_eq_false hleaf] at hname
      cases hname

theorem Over.eq_none {place : Option Setting} (h : Over none place) : place = none := by
  cases h
  rfl

theorem Over.exists_of_some {t : Setting} {place : Option Setting} (h : Over (some t) place) :
    ∃ s, place = some s ∧ t.hasFields = s.hasFields ∧
      ∀ items, t = .array items ↔ s = .array items := by
  cases h with
  | laid base s => exact ⟨s, rfl, hasFields_overlay base s, fun _ => overlay_eq_array_iff⟩
  | same => exact ⟨t, rfl, rfl, fun _ => Iff.rfl⟩

end Setting

namespace Layers

open Setting (Over)

variable {layers : Layers}

theorem hides_iff {group : String} : layers.hides group = true ↔
    ∃ s, layers.project.get? group = some s ∧ s.isTable = false := by
  rw [hides, Option.any_eq_true]
  simp only [Bool.not_eq_true']

def tree (layers : Layers) : Setting := Setting.overlay layers.user layers.project

theorem chartField?_of_ne_array {s : Setting} (hs : layers.chart? = some s)
    (h : ∀ items, s ≠ .array items) (name : String) (position : Nat) :
    layers.chartField? name position = layers.field? "chart" name := by
  rw [chartField?, hs]
  cases s with
  | array items => exact absurd rfl (h items)
  | _ => rfl

section Tree

variable (htidy : layers.project.Tidy) (htable : layers.project.isTable = true)

include htidy htable

theorem over_field? (group name : String) :
    Over (layers.tree.find? [group, name]) (layers.field? group name) := by
  rw [field?, tree]
  cases hname : layers.project.find? [group, name] with
  | some s =>
      obtain ⟨g, hg, hgroup⟩ := Setting.exists_table_of_find? hname
      have hshown : layers.hides group = false := by rw [hides, hg, Option.any_some, hgroup]; rfl
      rw [hshown, Setting.find?_overlay htidy hname]
      exact .laid _ s
  | none =>
      cases hhides : layers.hides group with
      | true =>
          obtain ⟨g, hg, hleaf⟩ := hides_iff.1 hhides
          rw [Setting.find?_cons, (Setting.get?_overlay _ htidy hg).2,
            Setting.overlay_of_isTable_eq_false hleaf, Option.bind_some, Setting.find?_cons,
            Setting.get?_of_isTable_eq_false hleaf]
          exact .same _
      | false =>
          rw [Setting.find?_overlay_of_none htidy hname]
          · exact .same _
          · intro front s hfront hs
            simp only [List.prefix_cons_iff, List.prefix_nil] at hfront
            rcases hfront with rfl | ⟨_, rfl, rfl | ⟨_, rfl, rfl⟩⟩
            · obtain rfl := Option.some.inj hs
              exact htable
            · rw [Setting.find?_singleton] at hs
              cases hleaf : s.isTable with
              | true => rfl
              | false =>
                  rw [hides_iff.2 ⟨s, hs, hleaf⟩] at hhides
                  cases hhides
            · rw [hname] at hs
              cases hs

theorem over_chart? : Over (layers.tree.get? "chart") layers.chart? := by
  rw [chart?, tree]
  cases hchart : layers.project.get? "chart" with
  | none =>
      rw [Setting.get?_overlay_of_none htidy htable hchart]
      exact .same _
  | some s =>
      rw [(Setting.get?_overlay _ htidy hchart).2]
      exact .laid _ s

section Chart

variable {t : Setting} (ht : layers.tree.get? "chart" = some t)

include ht

theorem over_chartField? (name : String) (position : Nat) :
    Over (t.field? name position) (layers.chartField? name position) := by
  have hchart := over_chart? htidy htable
  rw [ht] at hchart
  obtain ⟨s, hs, _, hkind⟩ := hchart.exists_of_some
  by_cases harray : ∃ items, s = .array items
  · obtain ⟨items, rfl⟩ := harray
    rw [(hkind items).2 rfl, chartField?, hs]
    exact .same _
  · have hne : ∀ items, s ≠ .array items := fun items heq => harray ⟨items, heq⟩
    have hfield := over_field? htidy htable "chart" name
    rw [Setting.find?_cons, ht, Option.bind_some, Setting.find?_singleton] at hfield
    rw [Setting.field?_of_ne_array fun items => mt (hkind items).1 (hne items),
      chartField?_of_ne_array hs hne]
    exact hfield

theorem fieldOr_eq {α : Type} (default : α) {convert : String → Setting → Except Error α}
    (hconvert : ∀ key base s, convert key (Setting.overlay base s) = convert key s) (name : String)
    (position : Nat) :
    t.fieldOr default convert name position =
      layers.chartFieldOr default convert name position := by
  have hover := over_chartField? htidy htable ht name position
  rw [Setting.fieldOr, chartFieldOr]
  generalize t.field? name position = there, layers.chartField? name position = here at hover ⊢
  cases hover with
  | same => rfl
  | laid base s => exact hconvert _ base s

theorem chart_eq_fields : t.chart = layers.fields := by
  have hpixels := fun default => fieldOr_eq htidy htable ht default Setting.pixels_overlay
  have hlimit := fun default => fieldOr_eq htidy htable ht default Setting.limit_overlay
  have hchart := over_chart? htidy htable
  rw [ht] at hchart
  obtain ⟨s, hs, hfields, _⟩ := hchart.exists_of_some
  rw [Setting.chart, fields, hs, Option.all_some, ← hfields]
  simp only [hpixels, hlimit]
  rfl

end Chart

theorem fields_of_no_chart (hnone : layers.tree.get? "chart" = none) :
    layers.fields = .ok Settings.default := by
  have hchart := over_chart? htidy htable
  rw [hnone] at hchart
  have hkind : layers.chart? = none := hchart.eq_none
  have hfield : ∀ name position, layers.chartField? name position = none := by
    intro name position
    have hover := over_field? htidy htable "chart" name
    rw [Setting.find?_cons, hnone, Option.bind_none] at hover
    rw [chartField?, hkind]
    exact hover.eq_none
  simp only [fields, hkind, Option.all_none, chartFieldOr, hfield]
  rfl

theorem settings_eq : (chartSettings (.ok layers.tree)).2 = layers.settings := by
  simp only [chartSettings, settings, Setting.find?_singleton]
  cases hchart : layers.tree.get? "chart" with
  | none =>
      rw [fields_of_no_chart htidy htable hchart]
      rfl
  | some t =>
      rw [← chart_eq_fields htidy htable hchart]
      simp only
      cases t.chart with
      | error => rfl
      | ok s => exact s.supported_eq

theorem directory_eq :
    (inputDirectory (.ok layers.tree)).2 = Path.ofString layers.directory := by
  have hover := over_field? htidy htable "input" "directory"
  rw [inputDirectory, directory]
  generalize layers.tree.find? ["input", "directory"] = there,
    layers.field? "input" "directory" = here at hover ⊢
  cases hover with
  | same => rfl
  | laid base s => rw [Option.bind_some, Option.bind_some, Setting.text?_overlay, defaultInput]

end Tree

end Layers

section Read

variable {disk : Disk}

theorem tidy_document {file : Path × List UInt8} {entries : List (String × Toml.Value)}
    (h : document file = .ok entries) : Entries.Keyed Toml.Value.Tidy entries := by
  rw [document] at h
  cases hread : Toml.read (Text.decodeLossy (skipMark file.2)) with
  | error => rw [hread] at h; cases h
  | ok read =>
      rw [hread] at h
      cases h
      exact Toml.tidy_read hread

theorem read_cases (disk : Disk) (env : Environment) :
    (∃ cause, layers disk env = .error cause ∧ read disk env = .error cause) ∨
      ∃ below above, (localFile? disk).toList.mapM document = .ok above ∧
        layers disk env = .ok ⟨Setting.ofDocuments below, Setting.ofDocuments above⟩ ∧
        read disk env = .ok (Setting.ofDocuments (below ++ above)) := by
  rw [layers, treeOf, treeOf, read, files, List.mapM_append]
  cases (userFile? disk env).toList.mapM document with
  | error cause => exact .inl ⟨cause, rfl, rfl⟩
  | ok below =>
      cases (localFile? disk).toList.mapM document with
      | error cause => exact .inl ⟨cause, rfl, rfl⟩
      | ok above => exact .inr ⟨below, above, rfl, rfl, rfl⟩

/-- No key at the top of the project's configuration changes an element of an array, and none leads
to another one or below it. -/
def ProjectApart (disk : Disk) : Prop :=
  ∀ file entries, localFile? disk = some file → document file = .ok entries →
    Setting.LeadApart (entries.map Prod.fst)

theorem ofDocuments_project (hproject : ProjectApart disk)
    {above : List (List (String × Toml.Value))}
    (habove : (localFile? disk).toList.mapM document = .ok above)
    (below : List (List (String × Toml.Value))) :
    (Setting.ofDocuments above).Tidy ∧ Setting.ofDocuments (below ++ above) =
      Setting.overlay (Setting.ofDocuments below) (Setting.ofDocuments above) := by
  cases hfile : localFile? disk with
  | none =>
      rw [hfile] at habove
      obtain rfl : above = [] := (Except.ok.inj habove).symm
      rw [List.append_nil, Setting.ofDocuments_nil,
        Setting.overlay_empty (Setting.isTable_ofDocuments below)]
      exact ⟨Setting.tidy_table_iff.2 .nil, rfl⟩
  | some file =>
      rw [hfile, Option.toList_some, List.mapM_cons, List.mapM_nil] at habove
      cases hentries : document file with
      | error => rw [hentries] at habove; cases habove
      | ok entries =>
          rw [hentries] at habove
          cases habove
          have hkeys := hproject file entries hfile hentries
          have hvalues := (tidy_document hentries).all
          exact ⟨Setting.tidy_ofDocuments hkeys hvalues,
            Setting.ofDocuments_append below hkeys hvalues⟩

end Read

/-- What the program makes of the configuration. -/
structure Effective (disk : Disk) (env : Environment) (directory : Option Path)
    (settings : Settings) (scanned : Path) : Prop where
  /-- Files that can be read: the project's tree is laid over the user's. -/
  readable : ProjectApart disk → ∀ both, layers disk env = .ok both →
    (∃ tree, read disk env = .ok tree ∧ Setting.Overrides both.user both.project tree) ∧
      settings = both.settings ∧ scanned = directory.getD (Path.ofString both.directory)
  /-- A file that is no document undoes both. -/
  unreadable : ∀ cause, layers disk env = .error cause →
    settings = ⟨1280, 960, none, none, none⟩ ∧ scanned = directory.getD (Path.ofString "result")
  supported : 640 ≤ settings.width ∧ 480 ≤ settings.height ∧ settings.supported = settings

theorem directoryOf_snd (config : Except Error Setting) (request : CommandLine.Request) :
    (Program.directoryOf config request).2 = request.directory.getD (inputDirectory config).2 := by
  rw [Program.directoryOf]
  cases request.directory <;> rfl

theorem supported_chartSettings (config : Except Error Setting) :
    640 ≤ (chartSettings config).2.width ∧ 480 ≤ (chartSettings config).2.height ∧
      (chartSettings config).2.supported = (chartSettings config).2 := by
  have hsupported := isSupported_chartSettings config
  obtain ⟨hwidth, hheight⟩ := of_decide_eq_true hsupported
  exact ⟨hwidth, hheight, Settings.supported_of_isSupported hsupported⟩

theorem effective_read (disk : Disk) (env : Environment) (request : CommandLine.Request) :
    Effective disk env request.directory (chartSettings (read disk env)).2
      (Program.directoryOf (read disk env) request).2 := by
  rw [directoryOf_snd]
  rcases read_cases disk env with ⟨cause, hlayers, hread⟩ | ⟨below, above, habove, hlayers, hread⟩
  · refine ⟨fun _ both hboth => ?_, fun _ _ => ?_, supported_chartSettings _⟩
    · rw [hlayers] at hboth
      cases hboth
    · rw [hread]
      exact ⟨rfl, rfl⟩
  · refine ⟨fun hproject both hboth => ?_, fun cause herror => ?_, supported_chartSettings _⟩
    · rw [hlayers] at hboth
      cases hboth
      let both : Layers := ⟨Setting.ofDocuments below, Setting.ofDocuments above⟩
      obtain ⟨htidy, htree⟩ := ofDocuments_project hproject habove below
      have htable : both.project.isTable = true := Setting.isTable_ofDocuments above
      have hsettings : (chartSettings (.ok both.tree)).2 = both.settings :=
        Layers.settings_eq htidy htable
      have hdirectory : (inputDirectory (.ok both.tree)).2 = Path.ofString both.directory :=
        Layers.directory_eq htidy htable
      rw [htree] at hread
      refine ⟨⟨_, hread, Setting.overrides_overlay _ htidy⟩, ?_, ?_⟩
      · rw [hread]
        exact hsettings
      · rw [hread]
        exact congrArg request.directory.getD hdirectory
    · rw [hlayers] at herror
      cases herror

/-- The program works with the settings of both configuration files, whatever these and the rest of
the disk are and whoever paints: they are what an image is painted with, and the program fails only
if the batch fails. -/
theorem serve_layers (disk : Disk) (env : Environment) (request : CommandLine.Request)
    (painter : Painter) :
    let config := read disk env
    let settings := (chartSettings config).2
    let scanned := (Program.directoryOf config request).2
    let writer : Artifact.Writer := match request.format with
      | .png => .png settings (isSupported_chartSettings config) painter
      | .csv => .csv
    let outcome := Batch.processDirectory writer disk scanned
    let exit := Program.serve env disk request painter
    Effective disk env request.directory settings scanned ∧
      exit.disk = outcome.disk ∧
      (exit.code = 0 ↔ ∃ artifacts, outcome.result = .ok artifacts) := by
  intro config settings scanned writer outcome exit
  have hwriter : (Artifact.Writer.ofFormat request.format settings painter).2 = writer :=
    Artifact.Writer.ofFormat_of_isSupported request.format (isSupported_chartSettings config)
      painter
  have houtcome : Batch.processDirectory
      (Artifact.Writer.ofFormat request.format settings painter).2 disk scanned = outcome := by
    rw [hwriter]
  refine ⟨effective_read disk env request, ?_, ?_⟩
  · rw [← houtcome]
    rfl
  · rw [← houtcome]
    simp only [exit, Program.serve]
    split
    · next artifacts hresult => exact ⟨fun _ => ⟨artifacts, hresult⟩, fun _ => rfl⟩
    · next failure hresult =>
        refine ⟨fun hcode => ?_, fun ⟨artifacts, hok⟩ => ?_⟩
        · cases hcode
        · rw [hresult] at hok
          cases hok

/-- A disk with a user's configuration below `/home` and a project's at the root. -/
def configured (user project : String) : Disk :=
  let home := Text.encode "home".toList
  let own := Text.encode "bench-plot".toList
  ⟨[([home], .directory), ([own, home], .directory),
    ([Text.encode "config.toml".toList, own, home], .file (Text.encode user.toList)),
    ([localName], .file (Text.encode project.toList))], []⟩

def atHome : Environment := ⟨none, some "/home", none⟩

/-- The width is the user's and the height the project's, and an image is painted in this size. -/
theorem serve_layers_of_both_files :
    let logs := Text.encode "u".toList
    let disk := ((configured "input.directory = 'u'\n[chart]\nwidth = 1000\nheight = 'tall'"
      "\"chart.height\" = 700").put [logs] .directory).put
        [Text.encode "bench-int1-read2-hit3-A.txt".toList, logs] (.file [])
    let request : CommandLine.Request := ⟨0, .png, none⟩
    let painter : Painter := ⟨true, fun _ (width, height, _) =>
      .ok (Text.encode (toString width ++ "x" ++ toString height).toList), Disk.Fault.message⟩
    let config := read disk atHome
    ProjectApart disk ∧
      (layers disk atHome).toOption.map (fun both => (both.settings, both.directory)) =
        some (⟨1000, 700, none, none, none⟩, "u") ∧
      (chartSettings config).2 = ⟨1000, 700, none, none, none⟩ ∧
      (Program.directoryOf config request).2 = Path.ofString "u" ∧
      ((Program.serve atHome disk request painter).disk.read
        (Path.ofString "u/bench-int1-read2-hit3-A.png")).toOption =
          some (Text.encode "1000x700".toList) := by
  intro logs disk request painter config
  have hproject : ProjectApart disk := by
    intro file entries hfile hentries
    have hkeys : ((localFile? disk).bind fun file =>
        (document file).toOption.map (·.map Prod.fst)) = some ["chart.height"] := by
      decide +kernel
    rw [hfile, Option.bind_some, hentries] at hkeys
    rw [show entries.map Prod.fst = ["chart.height"] from Option.some.inj hkeys]
    decide +kernel
  obtain ⟨heffective, hdisk, -⟩ := serve_layers disk atHome request painter
  obtain ⟨both, hboth⟩ : ∃ both, layers disk atHome = .ok both := by
    cases hlayers : layers disk atHome with
    | ok both => exact ⟨both, rfl⟩
    | error cause =>
        have hok : (layers disk atHome).isOk = true := by decide +kernel
        rw [hlayers] at hok
        cases hok
  have hlayers : (layers disk atHome).toOption.map (fun both => (both.settings, both.directory)) =
      some (⟨1000, 700, none, none, none⟩, "u") := by
    decide +kernel
  obtain ⟨-, hsettings, hscanned⟩ := heffective.readable hproject both hboth
  refine ⟨hproject, hlayers, ?_, ?_, ?_⟩
  · rw [hboth] at hlayers
    exact hsettings.trans (Prod.mk.inj (Option.some.inj hlayers)).1
  · rw [hboth] at hlayers
    exact hscanned.trans (congrArg Path.ofString (Prod.mk.inj (Option.some.inj hlayers)).2)
  · rw [hdisk]
    decide +kernel

/-- What a file alone sets at the end of a way, as a text. -/
def said? (file : Option (Path × List UInt8)) (keys : List String) : Option String :=
  (treeOf file).toOption.bind fun tree => (tree.find? keys).bind Setting.text?

/-- An array is a chart by position. What the project sets to no table hides the user's group, and
so does a key of the project that leads to an element of an array, or one below another. -/
theorem layers_beyond_names :
    let byPosition := configured "" "chart = [800, 600]"
    let replaced := configured "[input]\ndirectory = 'u'" "input = 700"
    let indexed := configured "[chart]\nheight = 700" "\"chart[0]\" = 800"
    let nested := configured "[chart]\nheight = 700" "chart = 5\n\"chart.width\" = 800"
    ((treeOf (localFile? byPosition)).toOption.bind (·.get? "chart")).map Setting.isTable =
        some false ∧
      (chartSettings (read byPosition atHome)).2 = ⟨800, 600, none, none, none⟩ ∧
      said? (localFile? replaced) ["input", "directory"] = none ∧
      said? (userFile? replaced atHome) ["input", "directory"] = some "u" ∧
      (inputDirectory (read replaced atHome)).2 = Path.ofString "result" ∧
      said? (localFile? indexed) ["chart", "height"] = none ∧
      said? (userFile? indexed atHome) ["chart", "height"] = some "700" ∧
      (chartSettings (read indexed atHome)).2 = ⟨800, 960, none, none, none⟩ ∧
      said? (localFile? nested) ["chart", "height"] = none ∧
      said? (userFile? nested atHome) ["chart", "height"] = some "700" ∧
      (chartSettings (read nested atHome)).2 = ⟨800, 960, none, none, none⟩ := by
  decide +kernel

end Config

end BenchChart
