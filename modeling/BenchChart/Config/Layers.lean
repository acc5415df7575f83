import BenchChart.Config.Convert
import BenchChart.Disk
import BenchChart.Environment
import BenchChart.Proofs.Path
import BenchChart.Settings.Size
import BenchChart.Toml.Document

/-!
# Layers of configuration

The user has a configuration file, and a project may have one that overrides it: the file
`.benchplotconfig` of the nearest directory above the current one, or in it. Neither need exist.
What is wrong with the configuration never stops the program: it is reported, and the defaults are
used instead.
-/

namespace BenchChart

namespace Config

def localName : Name := Text.encode ".benchplotconfig".toList

def defaultInput : String := "result"

def inUserDirectory (directory : Path) : Path :=
  (directory.join (Text.encode "bench-plot".toList)).join (Text.encode "config.toml".toList)

def userPath? (env : Environment) : Option Path :=
  match env.configHome with
  | some directory => some (inUserDirectory (Path.ofString directory))
  | none => env.home.map fun home => inUserDirectory (home.join (Text.encode ".config".toList))

def file? (disk : Disk) (path : Path) : Option (Path × List UInt8) :=
  match disk.read path with
  | .ok content => some (path, content)
  | .error _ => none

/-- The user's configuration file. If it does not exist, one with `.toml` after its name is
taken. -/
def userFile? (disk : Disk) (env : Environment) : Option (Path × List UInt8) := do
  let path ← userPath? env
  match file? disk path with
  | some found => some found
  | none => file? disk ⟨path.bytes ++ Text.encode ".toml".toList⟩

/-- Goes up from a directory until one has a configuration file, and tells the path of that. -/
def searchUp (disk : Disk) (directory : Path) : Option Path :=
  if disk.isFile (directory.join localName) then some (directory.join localName)
  else
    match _hparent : directory.parent? with
    | none => none
    | some parent => searchUp disk parent
termination_by directory.bytes.length
decreasing_by exact Path.length_lt_of_parent? ‹_›

def localFile? (disk : Disk) : Option (Path × List UInt8) :=
  (searchUp disk (Disk.pathOf disk.current)).bind (file? disk)

def skipMark : List UInt8 → List UInt8
  | 0xEF :: 0xBB :: 0xBF :: bytes => bytes
  | bytes => bytes

def document (file : Path × List UInt8) : Except Error (List (String × Toml.Value)) :=
  (Toml.read (Text.decodeLossy (skipMark file.2))).mapError (Error.unreadable file.1)

/-- The configuration files that exist, the overriding one last. -/
def files (disk : Disk) (env : Environment) : List (Path × List UInt8) :=
  (userFile? disk env).toList ++ (localFile? disk).toList

def read (disk : Disk) (env : Environment) : Except Error Setting := do
  return Setting.ofDocuments (← (files disk env).mapM document)

def chartSettings : Except Error Setting → List Event × Settings
  | .error cause => ([.configUnreadable cause], Settings.default)
  | .ok tree =>
    match tree.find? ["chart"] with
    | none => ([], Settings.default)
    | some setting =>
      match setting.chart with
      -- One field that cannot be converted undoes all of them.
      | .error cause => ([.settingsInvalid cause], Settings.default)
      | .ok settings => settings.checked

def inputDirectory : Except Error Setting → List Event × Path
  | .error cause => ([.configUnreadable cause], Path.ofString defaultInput)
  | .ok tree =>
    ([], Path.ofString (((tree.find? ["input", "directory"]).bind Setting.text?).getD defaultInput))

theorem isSupported_chartSettings (config : Except Error Setting) :
    (chartSettings config).2.isSupported = true := by
  unfold chartSettings
  split
  · exact Settings.isSupported_default
  · split
    · exact Settings.isSupported_default
    · split
      · exact Settings.isSupported_default
      · exact Settings.isSupported_supported _

end Config

end BenchChart
