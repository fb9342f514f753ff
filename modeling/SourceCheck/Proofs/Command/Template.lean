import SourceCheck.Command.Run
import SourceCheck.Proofs.Host.Changes
import SourceCheck.Proofs.Options.Links
import SourceCheck.Proofs.Results
import SourceCheck.Proofs.Text.Octets
import SourceCheck.Proofs.Toml.Switches

/-! # The configuration that is written

    The configuration is a document of switches, so it is read back as such
    (`read_configTemplate`).  Writing it makes directories and one file and changes no way
    (`keepsWays_ensureDirectories`), so the path that it was written to leads to that file
    afterwards, and the configuration is loaded from there (`loadOptions_of_runInit`).  But the
    name of the place decides how the file is read, not all that can be written to is a file, and
    not every file that may be written may be read. -/

namespace SourceCheck

open SourceCheck.Text FileSystem

/-! ## What it says -/

open Toml in
/-- The lines of the configuration. -/
def starterLines : List SwitchLine := [
  .comment " gocheck configuration template",
  .comment " Save this file as gocheck.toml next to your Go sources, or put the same",
  .comment " keys under [tool.gocheck] in pyproject.toml.",
  .blank,
  .comment " Compile the package containing the file (go build / go test -c).",
  .switch "buildOnSave" true,
  .comment " buildFlags = [\"-race\"]",
  .comment " buildTags = \"integration\"",
  .blank,
  .comment " Run a linter against the file. Only golint receives the file name",
  .comment " automatically; pass it through lintFlags for other linters.",
  .switch "lintOnSave" true,
  .comment " linter = \"golint\"",
  .comment " lintFlags = [\"-min_confidence=0.8\"]",
  .blank,
  .comment " Run go tool vet against the file.",
  .switch "vetOnSave" true,
  .comment " vetFlags = [\"-shadow\"]",
  .blank,
  .switch "coverOnSave" false,
  .blank,
  .comment " Kill tools that run longer than this many seconds.",
  .comment " toolTimeout = 60"]

/-- The options of the configuration: the build, the lint and the vet check are wanted, all else is
    as it is without a configuration. -/
def starterOptions : Options := { Options.default with build := true, lint := true, vet := true }

theorem toList_configTemplate : configTemplate.toList = Toml.linesChars starterLines := by
  have hlines : configTemplate
      = joinWith "\n" (starterLines.map Toml.SwitchLine.text ++ [""]) := by
    unfold configTemplate
    congr 1
  rw [hlines, Toml.toList_joinWith_lines]

theorem isPlain_starterLines : ∀ l ∈ starterLines, l.isPlain = true := by decide +kernel

theorem linesMembers_starterLines : Toml.linesMembers starterLines
    = [("buildOnSave", .bool true), ("lintOnSave", .bool true), ("vetOnSave", .bool true),
      ("coverOnSave", .bool false)] := by
  rfl

/-- **The configuration is read back.** -/
theorem read_configTemplate :
    Toml.read configTemplate = .ok [("buildOnSave", .bool true), ("lintOnSave", .bool true),
      ("vetOnSave", .bool true), ("coverOnSave", .bool false)] := by
  have hnodup : (Toml.linesKeys starterLines).Nodup := by
    unfold Toml.linesKeys
    rw [linesMembers_starterLines]
    decide
  rw [Toml.read_switchLines isPlain_starterLines hnodup toList_configTemplate,
    linesMembers_starterLines]

theorem validate_configTemplate :
    Options.validate [("buildOnSave", .bool true), ("lintOnSave", .bool true),
      ("vetOnSave", .bool true), ("coverOnSave", .bool false)] = .ok starterOptions := by
  rfl

/-! ## Reading it -/

variable {h : Host} {files later : FileSystem} {p file : Path} {place : Place} {e : Entry}

/-- A text without carriage returns is read as it was written. -/
theorem readText_encode {s : String} (hreturn : '\r' ∉ s.toList)
    (hread : h.files.read h.cwd file.text = .ok (Utf8.encode s)) : readText h file = .ok s := by
  unfold readText
  rw [hread]
  simp only [Utf8.decodeStrict_encode]
  rw [universalLineEnds_of_no_return hreturn, String.ofList_toList]

/-- A file with the configuration holds its switches. -/
theorem readDocument_configTemplate
    (hread : h.files.read h.cwd file.text = .ok (Utf8.encode configTemplate)) :
    readDocument h file = .ok [("buildOnSave", .bool true), ("lintOnSave", .bool true),
      ("vetOnSave", .bool true), ("coverOnSave", .bool false)] := by
  have hreturn : '\r' ∉ configTemplate.toList := by
    rw [toList_configTemplate]
    exact Toml.not_mem_linesChars isPlain_starterLines
  exact readDocument_of_readText (readText_encode hreturn hread) read_configTemplate

/-- What comes of loading the configuration from a place where an entry stands. -/
def loadedAt (fs : FileSystem) (file : Path) (place : Place) (e : Entry) :
    Except LoadFailure Loaded :=
  if e.isFile = false then .error (.unreadable file (.missing file.text))
  else if fs.allows .read e = false then
    .error (.unreadable (placePath place) (.system .notPermitted (placePath place).text))
  else if (placePath place).name = projectFile then .error (.noSection (placePath place))
  else .ok ⟨starterOptions, some (placePath place)⟩

/-- The configuration is loaded from a file that may be read, unless this is a project file. -/
theorem loadCandidate_configTemplate (hfile : h.isFile file.text = .ok true)
    (hread : h.files.read h.cwd file.text = .ok (Utf8.encode configTemplate)) :
    loadCandidate h true file
      = if file.name = projectFile then .error (.noSection file)
        else .ok (some ⟨starterOptions, some file⟩) := by
  rw [loadCandidate_of_isFile hfile (readDocument_configTemplate hread)]
  by_cases hname : file.name = projectFile
  · rw [if_pos hname, optionsIn_of_eq hname]
    rfl
  · rw [if_neg hname, optionsIn_of_ne hname]
    exact @loadedFrom_of_ok _ true _ _ validate_configTemplate

/-- **Loading a file with the configuration.**  Whether it can be read back is a matter of its
    mode alone. -/
theorem loadCandidate_of_stat {mode : Nat} (hfile : h.isFile file.text = .ok true)
    (hstat : h.files.stat h.cwd file.text = .ok (.file (Utf8.encode configTemplate) mode)) :
    loadCandidate h true file
      = if h.files.allows .read (.file (Utf8.encode configTemplate) mode) = false then
          .error (.unreadable file (.system .notPermitted file.text))
        else if file.name = projectFile then .error (.noSection file)
        else .ok (some ⟨starterOptions, some file⟩) := by
  have hread := read_of_stat_file hstat
  by_cases hrefused : h.files.allows .read (.file (Utf8.encode configTemplate) mode) = false
  · rw [if_pos hrefused] at hread ⊢
    exact loadCandidate_of_read_error hfile hread true
  · rw [if_neg hrefused] at hread ⊢
    exact loadCandidate_configTemplate hfile hread

/-! ## Where it is read -/

/-- A path is read from the working directory once. -/
theorem loadNamed_absolute (h : Host) (p : Path) :
    loadNamed h (p.absolute h.workingPath) = loadNamed h p := by
  have habsolute : (p.absolute h.workingPath).isAbsolute = true := Path.absolute_isAbsolute rfl
  have hsame : (p.absolute h.workingPath).absolute h.workingPath = p.absolute h.workingPath := by
    rw [Path.absolute, if_pos habsolute]
  unfold loadNamed
  dsimp only
  rw [hsame]

/-- **Loading from a path**, by the place it leads to: that is neither a directory nor a link. -/
theorem loadNamed_of_leads {n : Nat} (hlinks : h.files.LinksInReach)
    (hleads : Leads h.files [] (p.absolute h.workingPath).parts n place)
    (hne : place ≠ []) (hlink : ∀ target, h.files.entry? place ≠ some (.link target))
    (hnul : Host.hasNul (p.absolute h.workingPath).text = false) :
    loadNamed h p = (loadCandidate h true (placePath place)).bind fun found =>
      found.elim (.error (.unreadable (p.absolute h.workingPath)
        (.missing (p.absolute h.workingPath).text))) .ok := by
  have habsolute : (p.absolute h.workingPath).isAbsolute = true := Path.absolute_isAbsolute rfl
  have hreal : canonicalPath h (p.absolute h.workingPath) = .ok (placePath place) := by
    unfold canonicalPath
    rw [hnul, if_neg Bool.false_ne_true, canonical_of_leads hlinks habsolute hleads hne hlink]
  rw [← loadNamed_absolute, loadNamed_of_canonicalPath habsolute hreal]

theorem isFile_of_reached (hreached : Reached h.files place) (hne : place ≠ [])
    (hentry : h.files.entry? place = some e) (hlink : ∀ target, e ≠ .link target) :
    h.isFile (placePath place).text
      = if Host.hasNul (placePath place).text then .ok false
        else if pathLimit < octets (placePath place).text then .error .nameTooLong
        else .ok e.isFile := by
  have hstat := stat_of_reached h.cwd hreached hne
    fun target htarget => hlink target (Option.some.inj (hentry.symm.trans htarget))
  rw [hentry, Option.elim_some] at hstat
  unfold Host.isFile Host.ask Host.stat
  rw [hstat]
  by_cases hlong : pathLimit < octets (placePath place).text
  · rw [if_pos hlong, if_pos hlong]
    rfl
  · rw [if_neg hlong, if_neg hlong]

/-- A path that cannot be passed to the system cannot be loaded from. -/
theorem none_or_error_of_not_passable (required : Bool) {r : Except SystemError Bool}
    (hfile : h.isFile file.text = if Host.hasNul file.text then .ok false
      else if pathLimit < octets file.text then .error .nameTooLong else r)
    (hnot : ¬Passable file.text) :
    loadCandidate h required file = .ok none ∨ ∃ f, loadCandidate h required file = .error f := by
  unfold loadCandidate
  by_cases hnul : Host.hasNul file.text = true
  · rw [hfile, if_pos hnul]
    exact .inl rfl
  · have hlong : pathLimit < octets file.text := by
      by_contra hfits
      exact hnot ⟨by simpa using hnul, Nat.not_lt.mp hfits⟩
    rw [hfile, if_neg hnul, if_pos hlong]
    exact .inr ⟨_, rfl⟩

/-- **Loading what was written to a place.** -/
theorem loadNamed_of_entry {n : Nat} (hlinks : h.files.LinksInReach)
    (hleads : Leads h.files [] (p.absolute h.workingPath).parts n place)
    (hentry : h.files.entry? place = some e)
    (he : (∃ d, e = .device d) ∨ ∃ mode, e = .file (Utf8.encode configTemplate) mode)
    (hnul : Host.hasNul (p.absolute h.workingPath).text = false) :
    (Passable (placePath place).text →
        loadNamed h p = loadedAt h.files (p.absolute h.workingPath) place e)
      ∧ (¬Passable (placePath place).text → ∃ f, loadNamed h p = .error f) := by
  -- a configuration was written at `place`, so it is neither the root nor a link
  have hne : place ≠ [] := by
    rintro rfl
    obtain rfl := Option.some.inj (hentry : some (.directory h.files.rootMode) = some e)
    simp at he
  have hlink : ∀ target, e ≠ .link target := by
    rintro target rfl
    simp at he
  have hreached : Reached h.files place := hleads.reached reached_root
  have hisFile := isFile_of_reached hreached hne hentry hlink
  rw [loadNamed_of_leads hlinks hleads hne (by simpa [hentry] using hlink) hnul]
  constructor
  · rintro ⟨hnone, hfits⟩
    rw [hnone, if_neg Bool.false_ne_true, if_neg (Nat.not_lt.mpr hfits)] at hisFile
    rcases he with ⟨d, rfl⟩ | ⟨mode, rfl⟩
    · -- a device is no file
      unfold loadCandidate
      rw [hisFile]
      rfl
    · have hstat := stat_of_reached h.cwd hreached hne (by simp [hentry])
      rw [if_neg (Nat.not_lt.mpr hfits), hentry, Option.elim_some] at hstat
      have hown : ¬(Entry.file (Utf8.encode configTemplate) mode).isFile = false := by
        simp [Entry.isFile]
      unfold loadedAt
      rw [if_neg hown, loadCandidate_of_stat hisFile hstat]
      split
      · rfl
      split
      · rfl
      · rfl
  · intro hnot
    rcases none_or_error_of_not_passable true hisFile hnot with hskips | ⟨f, hfails⟩
    · rw [hskips]
      exact ⟨_, rfl⟩
    · rw [hfails]
      exact ⟨f, rfl⟩

/-! ## Where it is written -/

/-- The working directory of a host is a directory that can be reached by its path, and this can
    be told. -/
structure Host.HasDirectory (h : Host) : Prop where
  reached : Reached h.files h.cwd
  directory : ∃ mode, h.files.entry? h.cwd = some (.directory mode)
  noNul : Host.hasNul h.workingPath.text = false

/-- The text of a path from the working directory starts with no slash. -/
theorem not_startsWith_names {names : List String} (hne : names ≠ [])
    (hnames : ∀ name ∈ names, IsName name) :
    ¬startsWith (joinWith "/" names) "/" = true := by
  obtain ⟨first, rest, rfl⟩ := List.exists_cons_of_ne_nil hne
  have hfirst := hnames first List.mem_cons_self
  rw [startsWith_slash_iff, toList_joinWith_cons]
  rintro ⟨cs, hcs⟩
  cases hchars : first.toList with
  | nil => exact hfirst.ne_empty (String.toList_inj.mp hchars)
  | cons c more =>
    rw [hchars, List.cons_append] at hcs
    obtain ⟨rfl, -⟩ := List.cons.inj hcs
    exact hfirst.noSlash (hchars ▸ List.mem_cons_self)

/-- **Where a path leads from the working directory**, it leads from the root as an absolute
    path, unless this is a directory. -/
theorem leads_absolute (hcwd : h.HasDirectory) (hnames : ∀ name ∈ p.parts, IsName name)
    {entry : Option Entry} (hfind : h.files.find h.cwd true p.text = .ok ⟨place, entry⟩)
    (hdirectory : ∀ mode, entry ≠ some (.directory mode)) :
    ∃ n, Leads h.files [] (p.absolute h.workingPath).parts n place := by
  obtain ⟨n, hleads⟩ := leads_of_find hfind
  have hslashes : ∀ name ∈ p.parts, '/' ∉ name.toList :=
    fun name hname => (hnames name hname).noSlash
  have hparts : p.parts ≠ [] := by
    -- without names the path leads to the root or to the working directory
    intro hnil
    have hstay : ∀ name ∈ steps p.text, name = "" ∨ name = "." := by
      obtain ⟨root, parts⟩ := p
      obtain rfl : parts = [] := hnil
      cases root <;> decide
    have hplace : place = linkStart h.cwd p.text := hleads.eq_of_stay hstay
    have hentry : entry = h.files.entry? place := entry_of_find hfind
    obtain ⟨mode, hcwdMode⟩ : ∃ mode, h.files.entry? (linkStart h.cwd p.text)
        = some (.directory mode) := by
      unfold linkStart
      split
      · exact ⟨h.files.rootMode, rfl⟩
      · exact hcwd.directory
    rw [hplace, hcwdMode] at hentry
    exact hdirectory mode hentry
  obtain ⟨root, parts⟩ := p
  cases root with
  | relative =>
    have htext : (⟨.relative, parts⟩ : Path).text = joinWith "/" parts := by
      obtain ⟨first, rest, rfl⟩ := List.exists_cons_of_ne_nil hparts
      exact String.empty_append
    rw [htext,
      show steps (joinWith "/" parts) = parts from Path.splitAt_joinWith_names hparts hslashes,
      linkStart, if_neg (not_startsWith_names hparts hnames)] at hleads
    obtain ⟨mode, hmode⟩ := hcwd.directory
    have hlink : ∀ target, h.files.entry? h.cwd ≠ some (.link target) := by simp [hmode]
    have hown : Leads h.files [] h.cwd 0 h.cwd := Reached.leads hcwd.reached hlink
    exact hown.append hleads
  | slash | doubleSlash =>
    obtain ⟨empties, hempties, hcut⟩ := Path.exists_splitAt_text rfl hparts hslashes
    rw [show steps _ = _ from hcut, linkStart, if_pos (Path.startsWith_text rfl)] at hleads
    exact ⟨n, leads_empties hempties hleads⟩

/-! ### Paths without NUL -/

/-- The text of a path holds a character other than the slash and the dot just if a name does. -/
theorem Path.mem_text_iff {c : Char} (hslash : c ≠ '/') (hdot : c ≠ '.') {p : Path} :
    c ∈ p.text.toList ↔ ∃ name ∈ p.parts, c ∈ name.toList := by
  -- a separator is neither of the two characters, so only names matter
  have hjoin : ∀ names : List String,
      c ∈ (joinWith "/" names).toList ↔ ∃ name ∈ names, c ∈ name.toList := by
    intro names
    cases names with
    | nil => simp [joinWith]
    | cons first rest =>
      have hmark : ∀ name : String, c ∈ "/".toList ++ name.toList ↔ c ∈ name.toList := by
        intro name
        rw [show "/".toList = ['/'] from rfl]
        simp [hslash]
      rw [toList_joinWith_cons, List.mem_append, List.mem_flatMap]
      simp only [hmark, List.mem_cons, exists_eq_or_imp]
  have hroot : ∀ root : Root, c ∉ root.text.toList := by
    intro root
    cases root with
    | relative => simp [Root.text]
    | slash => simp [Root.text, hslash]
    | doubleSlash => simp [Root.text, hslash]
  obtain ⟨root, parts⟩ := p
  have happend : c ∈ (root.text ++ joinWith "/" parts).toList
      ↔ ∃ name ∈ parts, c ∈ name.toList := by
    rw [String.toList_append, List.mem_append, hjoin]
    simp [hroot]
  cases root with
  | relative =>
    cases parts with
    | nil => simp [text, hdot]
    | cons first rest => exact happend
  | slash | doubleSlash => exact happend

theorem hasNul_text_iff {p : Path} :
    Host.hasNul p.text = true ↔ ∃ name ∈ p.parts, Char.ofNat 0 ∈ name.toList := by
  unfold Host.hasNul holds
  rw [List.contains_iff_mem]
  exact Path.mem_text_iff (by decide) (by decide)

/-- An absolute path is told without NUL if it is from a directory that is told so. -/
theorem hasNul_absolute (hcwd : h.HasDirectory) (hnul : Host.hasNul p.text = false) :
    Host.hasNul (p.absolute h.workingPath).text = false := by
  have hown := hcwd.noNul
  rw [← Bool.not_eq_true, hasNul_text_iff] at hnul hown ⊢
  unfold Path.absolute Path.join
  split
  · exact hnul
  · rintro ⟨name, hname, hmem⟩
    rcases List.mem_append.mp hname with hname | hname
    · exact hown ⟨name, hname, hmem⟩
    · exact hnul ⟨name, hname, hmem⟩

/-! ### Folders -/

theorem keepsWays_ensureDirectory (hok : ensureDirectory h p = .ok later) :
    KeepsWays h.files later := by
  unfold ensureDirectory at hok
  split at hok
  · next hmake =>
    obtain rfl := Except.ok.inj hok
    exact keepsWays_makeDirectory hmake
  · cases hok
  · split at hok
    · obtain rfl := Except.ok.inj hok
      exact KeepsWays.refl _
    · cases hok
    · cases hok

theorem eq_ok_of_refusing {α : Type} {file : String} {x : Except SystemError α} {a : α}
    (hok : refusing file x = .ok a) : x = .ok a := by
  cases x with
  | ok b => exact congrArg Except.ok (Except.ok.inj hok)
  | error e => cases hok

/-- **Making folders changes no way.** -/
theorem keepsWays_ensureDirectories {depth : Nat} (hok : ensureDirectories h depth p = .ok later) :
    KeepsWays h.files later := by
  induction depth generalizing p later with
  | zero => exact keepsWays_ensureDirectory (eq_ok_of_refusing hok)
  | succ depth ih =>
    unfold ensureDirectories at hok
    split at hok
    · split at hok
      · cases hok
      · split at hok
        · cases hok
        · next files hfiles =>
          -- the folders above were made first
          exact (ih hfiles).trans
            (keepsWays_ensureDirectory (h := { h with files := files }) (eq_ok_of_refusing hok))
    · exact keepsWays_ensureDirectory (eq_ok_of_refusing hok)

/-! ### Files -/

/-- What is known of a text that was written to a path. -/
structure WrittenTo (h : Host) (p : Path) (content : List UInt8) (later : FileSystem)
    (place : Place) (e : Entry) : Prop where
  keepsWays : KeepsWays h.files later
  noNul : Host.hasNul p.text = false
  found : later.find h.cwd true p.text = .ok ⟨place, some e⟩
  leads : ∃ n, Leads later [] (p.absolute h.workingPath).parts n place
  entry : later.entry? place = some e
  /-- It is there now, or a device took it. -/
  content : (∃ d, e = .device d) ∨ ∃ mode, e = .file content mode

theorem Host.HasDirectory.keepsWays (hcwd : h.HasDirectory) (hkeeps : KeepsWays h.files files) :
    ({ h with files := files } : Host).HasDirectory where
  reached := hcwd.reached.keepsWays hkeeps
  directory := by
    obtain ⟨mode, hmode⟩ := hcwd.directory
    exact ⟨mode, hkeeps.directories h.cwd mode hmode⟩
  noNul := hcwd.noNul

/-- **What was written to a path** is found under it afterwards. -/
theorem exists_writtenTo {content : String} (hcwd : h.HasDirectory)
    (hnames : ∀ name ∈ p.parts, IsName name)
    (hok : writeWithFolders h p content = .ok later) :
    ∃ place e, WrittenTo h p (Utf8.encode content) later place e := by
  unfold writeWithFolders at hok
  split at hok
  · cases hok
  split at hok
  · cases hok
  next files hfolders =>
  split at hok
  · cases hok
  next hnul =>
  -- making the folders and then writing change the tree one after the other, and both keep the
  -- ways that led somewhere before
  have hkeeps := keepsWays_ensureDirectories hfolders
  have hcwd' := hcwd.keepsWays hkeeps
  obtain ⟨place, old, e, hfind, hwrote⟩ := wrote_of_write (eq_ok_of_refusing hok)
  have hold : old = files.entry? place := entry_of_find hfind
  -- a write does not succeed on a directory
  have hdirectory : ∀ mode, old ≠ some (.directory mode) := by
    rintro mode rfl
    cases hwrote with
    | file _ hnone => exact hnone mode rfl
  obtain ⟨n, hleads⟩ := leads_absolute hcwd' hnames hfind hdirectory
  have hlink : ∀ target, old ≠ some (.link target) := by
    rw [hold]
    exact hleads.no_link reached_root (by simp [FileSystem.entry?])
  obtain ⟨hkeeps', hentry⟩ := hwrote.keepsWays hold.symm hlink
  refine ⟨place, e, hkeeps.trans hkeeps', by simpa using hnul, ?_, ⟨n, hleads.keepsWays hkeeps'⟩,
    hentry, hwrote.entry_cases⟩
  rw [find_keepsWays hkeeps' hfind, hentry]

/-! ## Writing and loading -/

namespace CommandLine

/-- **A configuration that is written can be loaded**, unless the name of the place where it stands
    is that of a project file, or no file stands there, or one that may not be read, or the path of
    the place cannot be passed to the system.  If nothing is written, no file is changed. -/
theorem loadOptions_of_runInit {s : String} {force : Bool} {a : Answer} (hcwd : h.HasDirectory)
    (hlinks : h.files.LinksInReach) (hok : runInit h ⟨some (Path.ofText s), force⟩ = .ok a) :
    (a.status = 1 ∧ a.files = h.files)
      ∨ a.status = 0 ∧ ∃ place e,
        a.files.find h.cwd true (Path.ofText s).text = .ok ⟨place, some e⟩
        ∧ (Passable (placePath place).text →
          (loadOptions { h with files := a.files } (some (Path.ofText s)) none).1
            = loadedAt a.files ((Path.ofText s).absolute h.workingPath) place e)
        ∧ (¬Passable (placePath place).text → ∃ f,
          -- a status of zero comes from the one branch that wrote the file
          (loadOptions { h with files := a.files } (some (Path.ofText s)) none).1 = .error f) := by
  simp only [runInit] at hok
  split at hok
  · cases hok
  · obtain rfl := Except.ok.inj hok
    exact .inl ⟨rfl, rfl⟩
  next files hwritten =>
  obtain rfl := Except.ok.inj hok
  refine .inr ⟨rfl, ?_⟩
  -- the guards in front of the write decide whether it happens, not what it does
  have hwrite : writeWithFolders h (Path.ofText s) configTemplate = .ok files := by
    unfold writeConfig at hwritten
    split at hwritten
    · cases hwritten
    · split at hwritten
      · cases hwritten
      · obtain ⟨files, hfiles, hdone⟩ := eq_ok_of_map hwritten
        rw [hfiles, Written.done.inj hdone]
  have hnames : ∀ name ∈ (Path.ofText s).parts, IsName name := by
    rw [Path.parts_ofText]
    exact fun name hname => isName_of_mem_namesOf hname
  obtain ⟨place, e, hto⟩ := exists_writtenTo hcwd hnames hwrite
  obtain ⟨n, hleads⟩ := hto.leads
  obtain ⟨hloads, hfails⟩ := loadNamed_of_entry (h := { h with files := files })
    (hlinks.keepsWays hto.keepsWays) hleads hto.entry hto.content
    (hasNul_absolute (hcwd.keepsWays hto.keepsWays) hto.noNul)
  exact ⟨place, e, hto.found, hloads, hfails⟩

/-- A host without files. -/
def bareHost : Host := ⟨{ entries := [] }, [], []⟩

/-- The files of that host after the configuration was written to a name. -/
def filesAfter (name : String) : FileSystem where
  entries := [([name], .file (Utf8.encode configTemplate) newFileMode)]

theorem hasDirectory_bareHost : bareHost.HasDirectory :=
  ⟨reached_root, ⟨0o755, rfl⟩, by decide +kernel⟩

theorem linksInReach_bareHost : bareHost.files.LinksInReach :=
  linksInReach_of_mem fun _ _ hmem => absurd hmem List.not_mem_nil

theorem loadOptions_of_runInit_bareHost :
    runInit bareHost ⟨some (Path.ofText "gocheck.toml"), false⟩
        = .ok ⟨0, remark "Wrote starter config to gocheck.toml", "", filesAfter "gocheck.toml"⟩
      ∧ (loadOptions { bareHost with files := filesAfter "gocheck.toml" }
          (some (Path.ofText "gocheck.toml")) none).1
        = .ok ⟨starterOptions, some ⟨.slash, ["gocheck.toml"]⟩⟩ := by
  have hok : runInit bareHost ⟨some (Path.ofText "gocheck.toml"), false⟩
      = .ok ⟨0, remark "Wrote starter config to gocheck.toml", "", filesAfter "gocheck.toml"⟩ := by
    rfl
  refine ⟨hok, ?_⟩
  rcases loadOptions_of_runInit hasDirectory_bareHost linksInReach_bareHost hok with
    ⟨hstatus, -⟩ | ⟨-, place, e, hfind, hloads, -⟩
  · contradiction
  · have hown : (filesAfter "gocheck.toml").find [] true (Path.ofText "gocheck.toml").text
        = .ok ⟨["gocheck.toml"], some (.file (Utf8.encode configTemplate) 0o644)⟩ := by
      rfl
    cases hfind.symm.trans hown
    have hpassable : Passable (placePath ["gocheck.toml"]).text := by
      unfold Passable
      decide +kernel
    exact hloads hpassable

/-- **A configuration that cannot be loaded**: it was written to a project file, where options are
    looked for in a section. -/
theorem not_loadOptions_projectFile :
    runInit bareHost ⟨some (Path.ofText "pyproject.toml"), false⟩
        = .ok ⟨0, remark "Wrote starter config to pyproject.toml", "", filesAfter "pyproject.toml"⟩
      ∧ (loadOptions { bareHost with files := filesAfter "pyproject.toml" }
          (some (Path.ofText "pyproject.toml")) none).1
        = .error (.noSection ⟨.slash, ["pyproject.toml"]⟩) := by
  have hlinks : (filesAfter "pyproject.toml").LinksInReach :=
    linksInReach_of_mem fun place target hmem => by simp [filesAfter] at hmem
  have hleads : Leads (filesAfter "pyproject.toml") [] ["pyproject.toml"] 0 ["pyproject.toml"] :=
    .down ⟨0o755, rfl, fun _ => rfl⟩
      ⟨⟨by decide, by decide, by decide⟩, by decide, by decide +kernel⟩
      (fun target hlink => by cases hlink) (.done _)
  have hpassable : Passable (placePath ["pyproject.toml"]).text := by
    unfold Passable
    decide +kernel
  have hsection : ∀ (file : Path) (content : List UInt8),
      loadedAt (filesAfter "pyproject.toml") file ["pyproject.toml"] (.file content 0o644)
        = .error (.noSection ⟨.slash, ["pyproject.toml"]⟩) := by
    intro file content
    have hread : (filesAfter "pyproject.toml").allows .read (.file content 0o644) = true := by
      unfold FileSystem.allows
      simp [Entry.mode, Right.bit]
    unfold loadedAt
    rw [hread]
    rfl
  have hentry : FileSystem.entry? (filesAfter "pyproject.toml") ["pyproject.toml"]
      = some (.file (Utf8.encode configTemplate) 0o644) := rfl
  obtain ⟨hloads, -⟩ := loadNamed_of_entry
    (h := { bareHost with files := filesAfter "pyproject.toml" })
    (p := Path.ofText "pyproject.toml") hlinks hleads hentry (.inr ⟨0o644, rfl⟩) (by decide +kernel)
  refine ⟨by rfl, ?_⟩
  rw [loadOptions_some, hloads hpassable, hsection]

end CommandLine

end SourceCheck
