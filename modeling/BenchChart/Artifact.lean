import BenchChart.Drawing.Painter
import BenchChart.Settings.Size
import BenchChart.Table

/-!
# Artifacts

A run becomes one file, in the format that is asked for: a table of its samples or an image of its
chart. A table shows the samples alone; an image shows the parameters of the run as well, looks as
the settings say, and needs a painter that has its font.
-/

namespace BenchChart

namespace Artifact

inductive Format where
  | png
  | csv
  deriving DecidableEq, Repr

inductive Fault where
  | uncreated (artifact : Path) (cause : Disk.Fault)
  | fontUnusable
  | undrawn (artifact : Path) (cause : String)
  | unsaved (artifact : Path) (cause : String)
  deriving DecidableEq

namespace Format

def all : List Format := [.png, .csv]

def default : Format := .png

instance : Inhabited Format := ⟨default⟩

def extension : Format → String
  | .png => "png"
  | .csv => "csv"

def sameName (ignoreCase : Bool) (a b : String) : Bool :=
  if ignoreCase then a.toList.map Char.toLower == b.toList.map Char.toLower else a == b

def ofName? (ignoreCase : Bool) (name : String) : Option Format :=
  all.find? fun format => sameName ignoreCase format.extension name

theorem ofName?_extension (format : Format) : ofName? false format.extension = some format := by
  cases format <;> decide

end Format

def Fault.chain : Fault → List String
  | .uncreated artifact cause => ["Failed to create " ++ artifact.display, cause.message]
  | .fontUnusable => ["Bundled chart font could not be loaded"]
  | .undrawn artifact cause => ["Failed to draw chart " ++ artifact.display ++ ": " ++ cause]
  | .unsaved artifact cause => ["Failed to write image " ++ artifact.display ++ ": " ++ cause]

inductive Writer where
  | png (settings : Settings) (supported : settings.isSupported = true) (painter : Painter)
  | csv

namespace Writer

def format : Writer → Format
  | .png .. => .png
  | .csv => .csv

/-- The writer of a format, with the reports on settings that it cannot use. -/
def ofFormat (format : Format) (settings : Settings) (painter : Painter := .bundled) :
    List Event × Writer :=
  match format with
  | .png => (settings.sizeEvents, .png settings.supported settings.isSupported_supported painter)
  | .csv => ([], .csv)

def content (writer : Writer) (run : Run) (series : Series) (artifact : Path) :
    List Event × Except Fault (List UInt8) :=
  match writer with
  | .png settings _ painter =>
    if painter.hasFont then
      let (events, figure) := Figure.checked run series settings
      let image := painter.paint figure (Drawing.ofRun run series settings)
      (events, image.mapError (Fault.undrawn artifact))
    else ([], .error .fontUnusable)
  | .csv => ([], .ok (Text.encode (Table.ofSeries series)))

def fault (writer : Writer) (artifact : Path) (cause : Disk.Fault) : Fault :=
  match writer with
  | .png _ _ painter => .unsaved artifact (painter.wording cause)
  | .csv => .uncreated artifact cause

/-- Writes the artifact of a run. The parameters may be left out for a table. -/
def write (writer : Writer) (disk : Disk) (series : Series) (artifact : Path)
    (run : Run := Run.ofFileName []) : Except Fault Disk := do
  let bytes ← (writer.content run series artifact).2
  (disk.write artifact bytes).mapError (writer.fault artifact)

theorem ofFormat_of_isSupported (format : Format) {settings : Settings}
    (h : settings.isSupported = true) (painter : Painter) :
    (ofFormat format settings painter).2 =
      match format with
      | .png => .png settings h painter
      | .csv => .csv := by
  cases format with
  | png => simp only [ofFormat, Settings.supported_of_isSupported h]
  | csv => rfl

theorem write_of_content_error {writer : Writer} {run : Run} {series : Series} {artifact : Path}
    {fault : Fault} (h : (writer.content run series artifact).2 = .error fault) (disk : Disk) :
    writer.write disk series artifact run = .error fault := by
  rw [write, h]
  rfl

theorem write_of_content_ok {writer : Writer} {run : Run} {series : Series} {artifact : Path}
    {bytes : List UInt8} (h : (writer.content run series artifact).2 = .ok bytes) (disk : Disk) :
    writer.write disk series artifact run =
      (disk.write artifact bytes).mapError (writer.fault artifact) := by
  rw [write, h]
  rfl

end Writer

end Artifact

end BenchChart
