import SourceCheck.Proofs.Output.Continuations
import SourceCheck.Proofs.Path.Names

/-! # Where findings point

    A tool may report any path; its finding is put into the directory the tool ran in, under
    the last name of the path alone.  Here it is told which file that is once double dots are
    collapsed.  It is directly inside the directory, under that name, if the path has a last
    name other than the double dot (`ofOutput_places`).  A path without any name leads to the
    directory itself, and one whose last name is the double dot leads out of it, to the
    directory above.

    All paths that end in one name lead to one file, and in an absolute directory the text of that
    file leads to it again (`fileIn_endsIn`). -/

namespace SourceCheck

open SourceCheck.Text

/-! ## Files of findings -/

/-- A finding of an output is that of some finding line, the one of the same number. -/
theorem findingAt_of_ofOutput {working : Path} {origin : Origin} {output : String}
    {fs : List Finding} (hok : Finding.ofOutput working origin output = .ok fs) {k : Nat}
    {f : Finding} (hf : fs[k]? = some f) :
    ∃ i, (findingPositions (physicalLines output))[k]? = some i
      ∧ findingAt working origin (physicalLines output) i = some f := by
  have hk : ((findingPositions (physicalLines output)).map
      (findingAt working origin (physicalLines output)))[k]? = some (some f) := by
    rw [← map_some_of_ofOutput hok, List.getElem?_map, hf]
    rfl
  rw [List.getElem?_map] at hk
  exact Option.map_eq_some_iff.mp hk

/-- A file is directly inside a directory, under a name. -/
structure Path.IsIn (file directory : Path) (name : String) : Prop where
  parent : file.parent = directory
  name : file.name = name

/-- A finding points, double dots collapsed, to the file in a directory that has the last name
    of a reported path. -/
def Finding.PointsInto (f : Finding) (directory : Path) (reported : String) : Prop :=
  ∃ name, finalName? reported = some name ∧ f.file.normal.IsIn directory name

/-- A path leads to the file of its last name, or to the directory itself. -/
theorem fileIn_eq_absolute (working directory : Path) (reported : String) :
    fileIn working directory reported
      = (directory.child ((finalName? reported).getD "")).absolute working := by
  unfold fileIn
  rw [Path.name_ofText]

/-- The file of a finding is its directory with the last name of the reported path below it. -/
theorem fileIn_eq {working directory : Path} (habsolute : directory.isAbsolute = true)
    (reported : String) :
    fileIn working directory reported
      = { directory with parts := directory.parts ++ (finalName? reported).toList } := by
  have hchild : directory.child ((finalName? reported).getD "")
      = { directory with parts := directory.parts ++ (finalName? reported).toList } := by
    cases hfinal : finalName? reported with
    | none =>
      rw [Option.getD_none, Path.child_empty, Option.toList_none, List.append_nil]
    | some name => exact directory.child_of_isName (isName_of_finalName? hfinal)
  rw [fileIn_eq_absolute, hchild]
  exact if_pos habsolute

section Collapsed

variable {working directory : Path} {reported : String}

/-- A path without a name leads to the directory itself. -/
theorem normal_fileIn_of_none (habsolute : directory.isAbsolute = true)
    (hdots : ".." ∉ directory.parts) (hfinal : finalName? reported = none) :
    (fileIn working directory reported).normal = directory := by
  rw [fileIn_eq habsolute, hfinal, Option.toList_none, List.append_nil]
  exact Path.normal_of_not_mem hdots

/-- A path whose last name is the double dot leads to the directory above. -/
theorem normal_fileIn_of_doubleDot (habsolute : directory.isAbsolute = true)
    (hdots : ".." ∉ directory.parts) (hfinal : finalName? reported = some "..") :
    (fileIn working directory reported).normal = directory.parent := by
  rw [fileIn_eq habsolute, hfinal]
  exact Path.normal_append_doubleDot habsolute hdots

/-- Any other path leads to the file of its last name in the directory. -/
theorem isIn_normal_fileIn (habsolute : directory.isAbsolute = true)
    (hdots : ".." ∉ directory.parts) {name : String} (hfinal : finalName? reported = some name)
    (hname : name ≠ "..") : (fileIn working directory reported).normal.IsIn directory name := by
  have hnone : ".." ∉ directory.parts ++ [name] := by
    intro hmem
    rcases List.mem_append.mp hmem with hmem | hmem
    · exact hdots hmem
    · exact hname (List.mem_singleton.mp hmem).symm
  rw [fileIn_eq habsolute, hfinal, Option.toList_some, Path.normal_of_not_mem hnone]
  constructor
  · unfold Path.parent
    rw [List.dropLast_concat]
  · unfold Path.name
    rw [List.getLast?_concat]
    rfl

end Collapsed

/-- No file is directly inside the directory that is directly inside it. -/
theorem Path.not_isIn_parent {directory : Path} {name : String} (hname : name ≠ "") :
    ¬directory.parent.IsIn directory name := by
  intro hin
  have hlength : directory.parts.length - 1 - 1 = directory.parts.length := by
    have hparts := congrArg (fun p : Path => p.parts.length) hin.parent
    simpa [Path.parent] using hparts
  have hparts : directory.parts = [] := List.length_eq_zero_iff.mp (by omega)
  have hempty := hin.name
  unfold Path.name Path.parent at hempty
  rw [hparts] at hempty
  exact hname hempty.symm

/-- **Where findings point.**  Each finding of an output has a finding line, in order.  Its file,
    double dots collapsed, is directly inside the directory the tool ran in, under the last name
    of the reported path, just if this path has a last name and this is not the double dot.  The
    double dot leads to the directory above, and a path of slashes and single dots to the
    directory itself. -/
theorem ofOutput_places {working : Path} {origin : Origin} {output : String} {fs : List Finding}
    (hok : Finding.ofOutput working origin output = .ok fs)
    (habsolute : origin.directory.isAbsolute = true) (hdots : ".." ∉ origin.directory.parts)
    {k : Nat} {f : Finding} (hf : fs[k]? = some f) :
    ∃ i r, (findingPositions (physicalLines output))[k]? = some i
      ∧ (physicalLines output)[i]?.bind reportOf? = some r
      ∧ (f.PointsInto origin.directory r.path
          ↔ ∃ name, finalName? r.path = some name ∧ name ≠ "..")
      ∧ (finalName? r.path = some ".." → f.file.normal = origin.directory.parent)
      ∧ ((∀ piece ∈ splitAt '/' r.path, piece = "" ∨ piece = ".") →
          f.file.normal = origin.directory) := by
  obtain ⟨i, hi, hfinding⟩ := findingAt_of_ofOutput hok hf
  obtain ⟨r, hr, hrecord⟩ := Option.map_eq_some_iff.mp hfinding
  have hfile : f.file = fileIn working origin.directory r.path := by rw [← hrecord]
  refine ⟨i, r, hi, hr, ?_, ?_, ?_⟩
  · unfold Finding.PointsInto
    rw [hfile]
    constructor
    · rintro ⟨name, hfinal, hin⟩
      refine ⟨name, hfinal, ?_⟩
      -- the directory above a directory is not inside it
      rintro rfl
      rw [normal_fileIn_of_doubleDot habsolute hdots hfinal] at hin
      exact Path.not_isIn_parent (by decide) hin
    · rintro ⟨name, hfinal, hname⟩
      exact ⟨name, hfinal, isIn_normal_fileIn habsolute hdots hfinal hname⟩
  · intro hfinal
    rw [hfile]
    exact normal_fileIn_of_doubleDot habsolute hdots hfinal
  · intro hpieces
    rw [hfile]
    exact normal_fileIn_of_none habsolute hdots (finalName?_eq_none_iff.mpr hpieces)

/-! ### A path that leads out -/

/-- An output whose findings have paths with slashes, without a name, and with a double dot. -/
def strayOutput : String := "pkg//a.go:3:1: x\n./.:1:1: y\n../..:1:1: z"

/-- The findings in it. -/
def strayFindings : List Finding := [
  ⟨⟨.slash, ["w", "a.go"]⟩, 3, 1, "x", .error, none, none⟩,
  ⟨⟨.slash, ["w"]⟩, 1, 1, "y", .error, none, none⟩,
  ⟨⟨.slash, ["w", ".."]⟩, 1, 1, "z", .error, none, none⟩]

theorem ofOutput_strayOutput :
    Finding.ofOutput ⟨.slash, []⟩ ⟨⟨.slash, ["w"]⟩, .error, none, none⟩ strayOutput
      = .ok strayFindings := by
  rfl

theorem ofOutput_places_strayOutput :
    Finding.ofOutput ⟨.slash, []⟩ ⟨⟨.slash, ["w"]⟩, .error, none, none⟩ strayOutput
        = .ok strayFindings
      ∧ (⟨.slash, ["w"]⟩ : Path).isAbsolute = true
      ∧ ".." ∉ (⟨.slash, ["w"]⟩ : Path).parts
      ∧ strayFindings[0]? = some ⟨⟨.slash, ["w", "a.go"]⟩, 3, 1, "x", .error, none, none⟩
      ∧ ∃ i r, (findingPositions (physicalLines strayOutput))[0]? = some i
        ∧ (physicalLines strayOutput)[i]?.bind reportOf? = some r
        ∧ (Finding.PointsInto ⟨⟨.slash, ["w", "a.go"]⟩, 3, 1, "x", .error, none, none⟩
            ⟨.slash, ["w"]⟩ r.path
          ↔ ∃ name, finalName? r.path = some name ∧ name ≠ "..") := by
  obtain ⟨i, r, hi, hr, hpoints, -, -⟩ := ofOutput_places ofOutput_strayOutput rfl (by decide)
    (show strayFindings[0]? = some ⟨⟨.slash, ["w", "a.go"]⟩, 3, 1, "x", .error, none, none⟩ from rfl)
  exact ⟨ofOutput_strayOutput, rfl, by decide, rfl, i, r, hi, hr, hpoints⟩

/-- **Findings can point outside**: a reported path that ends in a double dot makes one whose
    file is the directory above the one the tool ran in. -/
theorem not_pointsInto_doubleDot :
    Finding.ofOutput ⟨.slash, []⟩ ⟨⟨.slash, ["w"]⟩, .error, none, none⟩ "..:1:1: x"
        = .ok [⟨⟨.slash, ["w", ".."]⟩, 1, 1, "x", .error, none, none⟩]
      ∧ (physicalLines "..:1:1: x")[0]?.bind reportOf? = some ⟨"..", 1, 1, none, "x"⟩
      ∧ (⟨.slash, ["w", ".."]⟩ : Path).normal = ⟨.slash, []⟩
      ∧ ¬Finding.PointsInto ⟨⟨.slash, ["w", ".."]⟩, 1, 1, "x", .error, none, none⟩
        ⟨.slash, ["w"]⟩ ".." := by
  refine ⟨rfl, rfl, rfl, ?_⟩
  rintro ⟨name, -, hin⟩
  have hparent : (⟨.slash, []⟩ : Path) = ⟨.slash, ["w"]⟩ := hin.parent
  cases hparent

/-! ## Paths that end in one name -/

/-- The text of a file in an absolute directory ends in its name. -/
theorem endsIn_text_fileIn {working directory : Path} {reported name : String}
    (habsolute : directory.isAbsolute = true) (h : EndsIn name reported) :
    EndsIn name (fileIn working directory reported).text := by
  rw [fileIn_eq habsolute, h.finalName?_eq]
  exact endsIn_iff.mpr (Path.finalName?_text_append habsolute h.isName)

/-- **A reported path counts by its last name alone, and where it leads to stays.**  Every path that
    ends in a name leads where this name alone leads: to the file of that name in the directory,
    read from the working directory.  If the directory is absolute, then the text of that file
    leads to the same file again. -/
theorem fileIn_endsIn (working directory : Path) {reported name : String}
    (h : EndsIn name reported) :
    fileIn working directory reported = fileIn working directory name
      ∧ fileIn working directory name
        = ({ directory with parts := directory.parts ++ [name] } : Path).absolute working
      ∧ (directory.isAbsolute = true →
          fileIn working directory (fileIn working directory reported).text
            = fileIn working directory reported) := by
  have hsame : ∀ s, EndsIn name s →
      fileIn working directory s = (directory.child name).absolute working := by
    intro s hs
    rw [fileIn_eq_absolute, hs.finalName?_eq, Option.getD_some]
  have halone := hsame name (.alone h.isName)
  refine ⟨?_, ?_, ?_⟩
  · rw [hsame reported h, halone]
  · rw [halone, directory.child_of_isName h.isName]
  · intro habsolute
    rw [hsame _ (endsIn_text_fileIn habsolute h), hsame reported h]

/-- A path with nothing between two slashes, and more behind its last name, the double dot. -/
def strayPath : String := "/a//b" ++ "/" ++ ".." ++ "/." ++ "/"

theorem endsIn_strayPath : EndsIn ".." strayPath :=
  ((EndsIn.under "/a//b" ⟨by decide, by decide, by decide⟩).dot).slash

theorem fileIn_endsIn_strayPath :
    EndsIn ".." strayPath
      ∧ fileIn ⟨.slash, ["w"]⟩ ⟨.doubleSlash, ["srv"]⟩ strayPath
        = fileIn ⟨.slash, ["w"]⟩ ⟨.doubleSlash, ["srv"]⟩ ".."
      ∧ fileIn ⟨.slash, ["w"]⟩ ⟨.doubleSlash, ["srv"]⟩ ".." = ⟨.doubleSlash, ["srv", ".."]⟩
      ∧ (⟨.doubleSlash, ["srv"]⟩ : Path).isAbsolute = true
      ∧ fileIn ⟨.slash, ["w"]⟩ ⟨.doubleSlash, ["srv"]⟩
          (fileIn ⟨.slash, ["w"]⟩ ⟨.doubleSlash, ["srv"]⟩ strayPath).text
        = fileIn ⟨.slash, ["w"]⟩ ⟨.doubleSlash, ["srv"]⟩ strayPath := by
  obtain ⟨hsame, hname, hagain⟩ :=
    fileIn_endsIn ⟨.slash, ["w"]⟩ ⟨.doubleSlash, ["srv"]⟩ endsIn_strayPath
  exact ⟨endsIn_strayPath, hsame, hname, rfl, hagain rfl⟩

end SourceCheck
