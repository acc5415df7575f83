import BenchChart.Artifact
import BenchChart.Proofs.Path
import BenchChart.Proofs.Text.Search
import BenchChart.Proofs.Text.Slice
import BenchChart.Proofs.Text.Utf8

/-!
# The names of artifacts

The name of an artifact is made of pieces of the name of its log, so it names an entry of the same
directory; and since it ends otherwise than the name of a log, it never is the name of one. Whatever
path leads to the log, the path of the artifact has the same parent.
-/

namespace BenchChart

namespace Run

def artifactFile (run : Run) (format : Artifact.Format) : List UInt8 :=
  Text.encode (run.artifactName format.extension).toList

/-- Each parameter stands together in the name. -/
structure TakenFrom (run : Run) (name : List Char) : Prop where
  intensity : run.intensity.toList <:+: name
  readPercentage : run.readPercentage.toList <:+: name
  hitRatio : run.hitRatio.toList <:+: name
  mode : run.mode.toList <:+: name

theorem takenFrom_ofFileName (name : List Char) : (ofFileName name).TakenFrom name := by
  constructor <;> simp only [ofFileName, String.toList_ofList, Text.slice_infix]

theorem toList_artifactName (run : Run) (extension : String) :
    (run.artifactName extension).toList =
      "bench-int".toList ++ run.intensity.toList ++ "-read".toList ++ run.readPercentage.toList ++
        "-hit".toList ++ run.hitRatio.toList ++ "-".toList ++ run.mode.toList ++ ".".toList ++
        extension.toList := by
  unfold artifactName stem
  -- As variables, the marks are not taken apart when the two sides are compared.
  generalize "bench-int" = a, "-read" = b, "-hit" = c, "-" = d, "." = e
  simp only [String.toList_append]

/-- What is neither in the log's name nor in what surrounds the parameters is not in the name of an
artifact. -/
theorem not_mem_artifactName {run : Run} {name : List Char} (hrun : run.TakenFrom name) {c : Char}
    (h : c ∉ name) (format : Artifact.Format)
    (hmarks : ∀ mark ∈ ["bench-int", "-read", "-hit", "-", ".", format.extension],
      c ∉ mark.toList) :
    c ∉ (run.artifactName format.extension).toList := by
  have hpiece : ∀ piece, piece <:+: name → c ∉ piece :=
    fun piece hoccurs hmem => h (hoccurs.subset hmem)
  rw [toList_artifactName]
  simp only [List.mem_append, not_or]
  exact ⟨⟨⟨⟨⟨⟨⟨⟨⟨hmarks _ (by simp), hpiece _ hrun.intensity⟩, hmarks _ (by simp)⟩,
    hpiece _ hrun.readPercentage⟩, hmarks _ (by simp)⟩, hpiece _ hrun.hitRatio⟩,
    hmarks _ (by simp)⟩, hpiece _ hrun.mode⟩, hmarks _ (by simp)⟩, hmarks _ (by simp)⟩

theorem slash_not_mem_artifactName {run : Run} {name : List Char} (hrun : run.TakenFrom name)
    (h : '/' ∉ name) (format : Artifact.Format) :
    '/' ∉ (run.artifactName format.extension).toList :=
  not_mem_artifactName hrun h format (by cases format <;> decide +kernel)

theorem getLast?_artifactName (run : Run) (format : Artifact.Format) :
    (run.artifactName format.extension).toList.getLast? = format.extension.toList.getLast? := by
  rw [toList_artifactName, List.getLast?_append]
  cases format <;> rfl

theorem getLast?_of_isLogName {name : List Char} (h : isLogName name = true) :
    name.getLast? = some 't' := by
  rw [isLogName, Bool.and_eq_true] at h
  obtain ⟨front, rfl⟩ := Text.endsWith_iff.1 h.2
  rw [List.getLast?_append]
  rfl

/-- An artifact of a log can be made in the directory of the log. -/
theorem isName_artifactFile {bytes : List UInt8} (hslash : Path.slash ∉ bytes)
    {name : List Char} (hname : Text.decode? bytes = some name) (format : Artifact.Format) :
    Path.IsName ((ofFileName name).artifactFile format) := by
  have hchar : '/' ∉ name := by
    intro hmem
    apply hslash
    rw [← Text.encode_of_decode? hname]
    exact (Text.mem_encode_iff (by decide)).2 hmem
  have hfile : Path.slash ∉ (ofFileName name).artifactFile format := by
    intro hmem
    exact slash_not_mem_artifactName (takenFrom_ofFileName name) hchar format
      ((Text.mem_encode_iff (by decide)).1 hmem)
  obtain ⟨rest, hrest⟩ : ∃ rest, (ofFileName name).artifactFile format = 0x62 :: rest := by
    rw [artifactFile, toList_artifactName]
    exact ⟨_, rfl⟩
  rw [hrest] at hfile ⊢
  exact Path.isName_cons hfile (by decide)

theorem isName_of_isLogName {bytes : List UInt8} (hslash : Path.slash ∉ bytes)
    {name : List Char} (hname : Text.decode? bytes = some name) (hlog : isLogName name = true) :
    Path.IsName bytes := by
  obtain ⟨rest, hrest⟩ : ∃ rest, bytes = 0x62 :: rest := by
    rw [isLogName, Bool.and_eq_true] at hlog
    obtain ⟨back, rfl⟩ := Text.startsWith_iff.1 hlog.1
    rw [← Text.encode_of_decode? hname, Text.encode_append]
    exact ⟨_, rfl⟩
  rw [hrest] at hslash ⊢
  exact Path.isName_cons hslash (by decide)

/-- No artifact has the name of a log: their last letters differ. -/
theorem artifactFile_ne {bytes : List UInt8} {name : List Char}
    (hname : Text.decode? bytes = some name) (hlog : isLogName name = true) (run : Run)
    (format : Artifact.Format) : run.artifactFile format ≠ bytes := by
  have hlast := Text.getLast?_encode (by decide) (getLast?_of_isLogName hlog)
  rw [Text.encode_of_decode? hname] at hlast
  rintro rfl
  have hfile := getLast?_artifactName run format
  cases format with
  | png =>
      rw [artifactFile, Text.getLast?_encode (c := 'g') (by decide) hfile] at hlast
      cases hlast
  | csv =>
      rw [artifactFile, Text.getLast?_encode (c := 'v') (by decide) hfile] at hlast
      cases hlast

theorem isLogName_artifactName (run : Run) (format : Artifact.Format) :
    isLogName (run.artifactName format.extension).toList = false := by
  rw [Bool.eq_false_iff]
  intro hlog
  have hlast := getLast?_of_isLogName hlog
  rw [getLast?_artifactName] at hlast
  cases format <;> cases hlast

theorem ofPath?_eq_some_iff {log : Path} {run : Run} :
    ofPath? log = some run ↔ ∃ bytes name, log.fileName? = some bytes ∧
      Text.decode? bytes = some name ∧ run = ofFileName name := by
  simp only [ofPath?, Option.map_eq_some_iff, Option.bind_eq_some_iff]
  constructor
  · rintro ⟨name, ⟨bytes, hbytes, hname⟩, rfl⟩
    exact ⟨bytes, name, hbytes, hname, rfl⟩
  · rintro ⟨bytes, name, hbytes, hname, rfl⟩
    exact ⟨name, ⟨bytes, hbytes, hname⟩, rfl⟩

/-- The artifact of a log goes to the parent of the log, under a name of its own. -/
theorem artifactPath_beside {log : Path} {run : Run} (h : ofPath? log = some run)
    (format : Artifact.Format) :
    ∃ parent, log.parent? = some parent ∧
      run.artifactPath log format.extension = parent.join (run.artifactFile format) ∧
      (run.artifactPath log format.extension).parent? = some parent ∧
      (run.artifactPath log format.extension).fileName? = some (run.artifactFile format) := by
  obtain ⟨bytes, name, hbytes, hname, rfl⟩ := ofPath?_eq_some_iff.1 h
  obtain ⟨before, hlast, _⟩ := Path.exists_last?_of_fileName? hbytes
  obtain ⟨parent, hparent, _⟩ := Path.parent?_of_last? hlast
  have hfile := isName_artifactFile (Path.isName_of_fileName? hbytes).noSlash hname format
  have hpath : (ofFileName name).artifactPath log format.extension =
      parent.join ((ofFileName name).artifactFile format) := by
    rw [artifactPath, hparent]
    rfl
  rw [hpath]
  exact ⟨parent, hparent, rfl, Path.parent?_join_of_parent? hparent hfile,
    Path.fileName?_join parent hfile⟩

end Run

end BenchChart
