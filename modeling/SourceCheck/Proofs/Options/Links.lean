import SourceCheck.Proofs.Options.Searching
import SourceCheck.Proofs.Path.Canonical

/-! # Files of options behind links

    A search for options looks at its candidates under their own names, while a file that is
    named is looked at under the name of the place it leads to.  Both read the same document
    (`readDocument_of_stat`), but the name tells which part of it holds the options.  So a
    file that a search found, and that is then named, gives what the document holds for the
    other name (`loadOptions_found`): the same options if both names or neither are those of a
    project file, and if the path of the place can be passed to the system. -/

namespace SourceCheck

open SourceCheck.Text FileSystem

variable {h : Host} {file : Path}

/-! ## One candidate -/

/-- What a candidate gives options from. -/
theorem loadCandidate_eq_some_iff {required : Bool} {loaded : Loaded} :
    loadCandidate h required file = .ok (some loaded)
      ↔ h.isFile file.text = .ok true ∧ loaded.file = some file
        ∧ ∃ document options, readDocument h file = .ok document
          ∧ optionsIn file document = .ok (some options)
          ∧ Options.validate options = .ok loaded.options := by
  -- from a file that was loaded back to each check that let it through
  constructor
  · intro hload
    unfold loadCandidate at hload
    cases hfile : h.isFile file.text with
    | error e =>
      rw [hfile] at hload
      cases hload
    | ok isFile =>
      rw [hfile] at hload
      cases isFile with
      | false => cases hload
      | true =>
        dsimp only [asking] at hload
        split at hload
        · cases hload
        next document hdocument =>
        split at hload
        · cases hload
        · split at hload <;> cases hload
        next options hoptions =>
        split at hload
        · next o hvalid =>
          obtain rfl := Option.some.inj (Except.ok.inj hload)
          exact ⟨rfl, rfl, document, options, hdocument, hoptions, hvalid⟩
        · cases hload
  · rintro ⟨hfile, hown, document, options, hdocument, hoptions, hvalid⟩
    obtain ⟨o, own⟩ := loaded
    obtain rfl : own = some file := hown
    rw [loadCandidate_of_isFile hfile hdocument, hoptions, Except.bind, loadedFrom_of_ok hvalid]

/-- The name alone tells which part of a document holds the options. -/
theorem optionsIn_of_name {other : Path}
    (hname : file.name = projectFile ↔ other.name = projectFile)
    {document : List (String × Value)} {options : Option (List (String × Value))}
    (hoptions : optionsIn file document = .ok options) :
    optionsIn other document = .ok options := by
  by_cases hproject : file.name = projectFile
  · rw [optionsIn_of_eq hproject] at hoptions
    rw [optionsIn_of_eq (hname.mp hproject)]
    split at hoptions
    · exact hoptions
    · exact hoptions
    · cases hoptions
  · rw [optionsIn_of_ne hproject] at hoptions
    rw [optionsIn_of_ne fun hother => hproject (hname.mpr hother)]
    exact hoptions

/-! ## Candidates of a search -/

/-- A path from the root by names without slashes. -/
structure Path.IsRooted (p : Path) : Prop where
  isAbsolute : p.isAbsolute = true
  noSlashes : NoSlashes p.parts

theorem isRooted_of_normal (place : Place) :
    (Path.ofText (placePath place).text).normal.IsRooted where
  isAbsolute := Path.isAbsolute_ofText (Path.startsWith_text rfl)
  noSlashes name hname := by
    rcases Path.mem_of_mem_collapse hname with hnone | hname
    · cases hnone
    · rw [Path.parts_ofText] at hname
      exact (isName_of_mem_namesOf hname).noSlash

theorem isRooted_of_canonicalPath {p real : Path} (hreal : canonicalPath h p = .ok real) :
    real.IsRooted := by
  have hplace : ∃ place, real = (Path.ofText (placePath place).text).normal := by
    unfold canonicalPath Host.canonical at hreal
    dsimp only at hreal
    split at hreal
    · cases hreal
    · split at hreal
      · next heq =>
        split at heq
        · cases heq
        · exact ⟨_, (Except.ok.inj hreal).symm.trans (Except.ok.inj heq).symm⟩
      · cases hreal
  obtain ⟨place, rfl⟩ := hplace
  exact isRooted_of_normal place

theorem isName_of_mem_candidateNames : ∀ name ∈ candidateNames, IsName name := by
  have hnames : ∀ name ∈ candidateNames, '/' ∉ name.toList ∧ name ≠ "" ∧ name ≠ "." := by decide
  intro name hname
  exact ⟨(hnames name hname).1, (hnames name hname).2.1, (hnames name hname).2.2⟩

theorem isRooted_parents {folder above : Path} (hfolder : folder.IsRooted)
    (habove : above ∈ folder :: folder.parents) : above.IsRooted := by
  rcases List.mem_cons.mp habove with rfl | habove
  · exact hfolder
  · obtain ⟨i, -, rfl⟩ := List.mem_map.mp habove
    exact ⟨hfolder.isAbsolute,
      fun name hname => hfolder.noSlashes name (List.mem_of_mem_take hname)⟩

theorem isRooted_of_mem_candidates {start : Path} {files : List Path} (hstart : start.IsRooted)
    (hfiles : candidates h start = .ok files) (hfile : file ∈ files) :
    file.IsRooted ∧ file.parts ≠ [] := by
  obtain ⟨isFolder, -, rfl⟩ := eq_ok_of_map hfiles
  -- the search starts at the folder itself or at the one the file is in
  have hfolder : (if isFolder then start else start.parent).IsRooted := by
    split
    · exact hstart
    · exact ⟨hstart.isAbsolute, fun name hname =>
        hstart.noSlashes name ((List.dropLast_sublist _).subset hname)⟩
  obtain ⟨above, habove, hchild⟩ := List.mem_flatMap.mp hfile
  obtain ⟨name, hname, rfl⟩ := List.mem_map.mp hchild
  have hrooted := isRooted_parents hfolder habove
  have hisName := isName_of_mem_candidateNames name hname
  rw [Path.child_of_isName above hisName]
  refine ⟨⟨hrooted.isAbsolute, hrooted.noSlashes.append ?_⟩, by simp⟩
  intro other hother
  rw [List.mem_singleton.mp hother]
  exact hisName.noSlash

theorem mem_of_loadFirst {files : List Path} {o : Options}
    (hload : loadFirst h files = .ok ⟨o, some file⟩) :
    file ∈ files ∧ loadCandidate h false file = .ok (some ⟨o, some file⟩) := by
  induction files with
  | nil => cases hload
  | cons first rest ih =>
    rw [loadFirst] at hload
    split at hload
    · cases hload
    · next loaded hfirst =>
      obtain rfl := Except.ok.inj hload
      obtain ⟨-, hown, -⟩ := loadCandidate_eq_some_iff.mp hfirst
      obtain rfl := Option.some.inj hown
      exact ⟨List.mem_cons_self, hfirst⟩
    · obtain ⟨hmem, hfile⟩ := ih hload
      exact ⟨List.mem_cons_of_mem first hmem, hfile⟩

/-! ## Files and places -/

/-- A text can be passed to the system as a path. -/
def Passable (s : String) : Prop := Host.hasNul s = false ∧ octets s ≤ pathLimit

theorem isFile_eq_true_iff {s : String} :
    h.isFile s = .ok true
      ↔ Host.hasNul s = false ∧ ∃ e, h.stat s = .ok e ∧ e.isFile = true := by
  unfold Host.isFile Host.ask
  cases hnul : Host.hasNul s with
  | true => simp
  | false =>
    rw [if_neg Bool.false_ne_true]
    cases h.stat s with
    | ok e => simp
    | error e =>
      dsimp only
      split <;> simp

/-- What a file reads as depends on what its path leads to. -/
theorem readDocument_of_stat {other : Path} (hstat : h.stat other.text = h.stat file.text)
    {document : List (String × Value)} (hdocument : readDocument h file = .ok document) :
    readDocument h other = .ok document := by
  -- reading depends on where the path leads and on nothing else of it
  have hread : h.files.read h.cwd other.text = h.files.read h.cwd file.text := by
    unfold FileSystem.read
    rw [show h.files.stat h.cwd other.text = h.files.stat h.cwd file.text from hstat]
  unfold readDocument readText at hdocument ⊢
  rw [hread]
  cases hoctets : h.files.read h.cwd file.text with
  | error e =>
    rw [hoctets] at hdocument
    cases hdocument
  | ok octets =>
    rw [hoctets] at hdocument
    dsimp only at hdocument ⊢
    cases hdecode : Utf8.decodeStrict octets with
    | error refusal =>
      rw [hdecode] at hdocument
      cases hdocument
    | ok s =>
      rw [hdecode] at hdocument
      dsimp only at hdocument ⊢
      split at hdocument
      · exact hdocument
      · cases hdocument
      · cases hdocument

/-- A file stands at a place, to which the names of a path lead. -/
structure LeadsToFile (h : Host) (file : Path) (place : Place) (e : Entry) : Prop where
  leads : ∃ n, Leads h.files [] file.parts n place
  found : h.files.find h.cwd true file.text = .ok ⟨place, some e⟩
  entry : h.files.entry? place = some e
  isFile : e.isFile = true

theorem exists_leadsToFile (hrooted : file.IsRooted) (hne : file.parts ≠ [])
    (hfile : h.isFile file.text = .ok true) : ∃ place e, LeadsToFile h file place e := by
  obtain ⟨-, e, hstat, he⟩ := isFile_eq_true_iff.mp hfile
  unfold Host.stat FileSystem.stat at hstat
  split at hstat
  · cases hstat
  · next place found heq =>
    obtain rfl := Except.ok.inj hstat
    -- the path's text gives the steps of its names, with empty ones that do not move
    obtain ⟨empties, hempties, hcut⟩ :=
      Path.exists_splitAt_text hrooted.isAbsolute hne hrooted.noSlashes
    have hwalk := heq
    rw [find_of_absolute hrooted.isAbsolute] at hwalk
    split at hwalk
    · cases hwalk
    · obtain ⟨⟨n, hleads⟩, hentry⟩ := arrives_of_walk (noSlashes_steps file.text) hwalk
      rw [show steps file.text = empties ++ file.parts from hcut] at hleads
      exact ⟨place, _, ⟨n, leads_empties hempties hleads⟩, heq, hentry.symm, he⟩
  · cases hstat

variable {place : Place} {e : Entry}

theorem LeadsToFile.reached (hleads : LeadsToFile h file place e) : Reached h.files place := by
  obtain ⟨n, hnames⟩ := hleads.leads
  exact hnames.reached reached_root

theorem LeadsToFile.ne_nil (hleads : LeadsToFile h file place e) : place ≠ [] := by
  rintro rfl
  have hfile := hleads.isFile
  rw [← Option.some.inj (hleads.entry : some (.directory h.files.rootMode) = some e)] at hfile
  cases hfile

theorem LeadsToFile.no_link (hleads : LeadsToFile h file place e) (target : String) :
    h.files.entry? place ≠ some (.link target) := by
  intro hlink
  have hfile := hleads.isFile
  rw [← Option.some.inj (hlink.symm.trans hleads.entry)] at hfile
  cases hfile

theorem LeadsToFile.stat_file (hleads : LeadsToFile h file place e) :
    h.stat file.text = .ok e := by
  unfold Host.stat FileSystem.stat
  rw [hleads.found]

/-- The canonical form of the path is the path of the place. -/
theorem LeadsToFile.canonicalPath_eq (hleads : LeadsToFile h file place e)
    (hlinks : h.files.LinksInReach) (habsolute : file.isAbsolute = true)
    (hfile : h.isFile file.text = .ok true) : canonicalPath h file = .ok (placePath place) := by
  obtain ⟨n, hnames⟩ := hleads.leads
  unfold canonicalPath
  rw [(isFile_eq_true_iff.mp hfile).1, if_neg Bool.false_ne_true,
    canonical_of_leads hlinks habsolute hnames hleads.ne_nil hleads.no_link]

theorem LeadsToFile.stat_place (hleads : LeadsToFile h file place e) :
    h.stat (placePath place).text
      = if pathLimit < octets (placePath place).text then .error .nameTooLong else .ok e := by
  unfold Host.stat
  rw [stat_of_reached h.cwd hleads.reached hleads.ne_nil hleads.no_link, hleads.entry,
    Option.elim_some]

theorem LeadsToFile.stat_eq (hleads : LeadsToFile h file place e)
    (hfits : octets (placePath place).text ≤ pathLimit) :
    h.stat (placePath place).text = h.stat file.text := by
  rw [hleads.stat_place, if_neg (Nat.not_lt.mpr hfits), hleads.stat_file]

/-- The file is found under the path of its place, if that can be passed to the system. -/
theorem LeadsToFile.isFile_iff (hleads : LeadsToFile h file place e) :
    h.isFile (placePath place).text = .ok true ↔ Passable (placePath place).text := by
  rw [isFile_eq_true_iff]
  refine and_congr_right fun _ => ?_
  rw [hleads.stat_place]
  constructor
  · rintro ⟨e', hstat, -⟩
    split at hstat
    · cases hstat
    · next hfits => exact Nat.le_of_not_lt hfits
  · intro hfits
    exact ⟨e, if_neg (Nat.not_lt.mpr hfits), hleads.isFile⟩

/-! ## Files that were found -/

theorem loadOptions_none (h : Host) (start : Option Path) :
    (loadOptions h none start).1 = discover h (start.getD h.workingPath) := rfl

theorem loadOptions_some (h : Host) (file : Path) (start : Option Path) :
    (loadOptions h (some file) start).1 = loadNamed h file := rfl

theorem loadNamed_of_canonicalPath {real : Path} (habsolute : file.isAbsolute = true)
    (hreal : canonicalPath h file = .ok real) :
    loadNamed h file = (loadCandidate h true real).bind fun found =>
      found.elim (.error (.unreadable file (.missing file.text))) .ok := by
  have hown : file.absolute h.workingPath = file := by simp [Path.absolute, habsolute]
  unfold loadNamed
  dsimp only
  rw [hown, hreal]
  dsimp only
  cases loadCandidate h true real with
  | error e => rfl
  | ok found => cases found <;> rfl

theorem loadNamed_eq_ok_iff {real : Path} (habsolute : file.isAbsolute = true)
    (hreal : canonicalPath h file = .ok real) {loaded : Loaded} :
    loadNamed h file = .ok loaded ↔ loadCandidate h true real = .ok (some loaded) := by
  rw [loadNamed_of_canonicalPath habsolute hreal]
  cases loadCandidate h true real with
  | error e => simp [Except.bind]
  | ok found => cases found <;> simp [Except.bind]

theorem exists_of_discover {start : Path} {o : Options}
    (hfound : discover h start = .ok ⟨o, some file⟩) :
    file.IsRooted ∧ file.parts ≠ [] ∧ loadCandidate h false file = .ok (some ⟨o, some file⟩) := by
  unfold discover at hfound
  split at hfound
  · cases hfound
  next real hreal =>
  split at hfound
  · cases hfound
  next files hfiles =>
  obtain ⟨hmem, hload⟩ := mem_of_loadFirst hfound
  obtain ⟨hrooted, hne⟩ := isRooted_of_mem_candidates (isRooted_of_canonicalPath hreal) hfiles hmem
  exact ⟨hrooted, hne, hload⟩

/-- **A file that a search found, and that is then named.**  Its path leads to a place, whose own
    path decides: options are loaded from there just if that path can be passed to the system and
    the document of the file holds valid options for the name of the place.  They are those that
    the search found, if both names or neither are those of a project file. -/
theorem loadOptions_found {start : Option Path} {o : Options} (hlinks : h.files.LinksInReach)
    (hfound : (loadOptions h none start).1 = .ok ⟨o, some file⟩) :
    ∃ place document, h.files.placeOf? h.cwd file.text = some place
      ∧ readDocument h file = .ok document
      ∧ (∀ (other : Option Path) (loaded : Loaded), (loadOptions h (some file) other).1 = .ok loaded
        ↔ Passable (placePath place).text ∧ loaded.file = some (placePath place)
          ∧ ∃ options, optionsIn (placePath place) document = .ok (some options)
            ∧ Options.validate options = .ok loaded.options)
      ∧ ((file.name = projectFile ↔ (placePath place).name = projectFile) →
        Passable (placePath place).text → ∀ other : Option Path,
          (loadOptions h (some file) other).1 = .ok ⟨o, some (placePath place)⟩) := by
  obtain ⟨hrooted, hne, hload⟩ := exists_of_discover hfound
  obtain ⟨hfile, -, document, options, hdocument, hoptions, hvalid⟩ :=
    loadCandidate_eq_some_iff.mp hload
  obtain ⟨place, e, hleads⟩ := exists_leadsToFile hrooted hne hfile
  have hplace : h.files.placeOf? h.cwd file.text = some place := by
    unfold placeOf?
    rw [hleads.found]
  have hreal := hleads.canonicalPath_eq hlinks hrooted.isAbsolute hfile
  have hnamed : ∀ (other : Option Path) (loaded : Loaded),
      (loadOptions h (some file) other).1 = .ok loaded
        ↔ Passable (placePath place).text ∧ loaded.file = some (placePath place)
          ∧ ∃ options, optionsIn (placePath place) document = .ok (some options)
            ∧ Options.validate options = .ok loaded.options := by
    intro other loaded
    rw [loadOptions_some, loadNamed_eq_ok_iff hrooted.isAbsolute hreal, loadCandidate_eq_some_iff,
      hleads.isFile_iff]
    refine and_congr_right fun hpassable => and_congr_right fun _ => ?_
    -- the same document is read under both paths
    have hread := readDocument_of_stat (hleads.stat_eq hpassable.2) hdocument
    constructor
    · rintro ⟨document', options, hdocument', hboth⟩
      obtain rfl := Except.ok.inj (hread.symm.trans hdocument')
      exact ⟨options, hboth⟩
    · rintro ⟨options, hboth⟩
      exact ⟨document, options, hread, hboth⟩
  refine ⟨place, document, hplace, hdocument, hnamed, ?_⟩
  intro hname hpassable other
  exact (hnamed other ⟨o, some (placePath place)⟩).mpr
    ⟨hpassable, rfl, options, optionsIn_of_name hname hoptions, hvalid⟩

/-- A host with two files of a folder that read the same, and a link to one of them where options
    are looked for. -/
def linkedHost (target : String) : Host where
  files := { entries := [
    (["shared"], .directory 0o755),
    (["shared", "options.toml"], .file "lintOnSave = true\n".toUTF8.toList 0o644),
    (["shared", "pyproject.toml"], .file "lintOnSave = true\n".toUTF8.toList 0o644),
    (["gocheck.toml"], .link target)] }
  cwd := []
  environment := []

/-- The path of that link. -/
def linkedFile : Path := ⟨.slash, ["gocheck.toml"]⟩

/-- What a search finds there. -/
def linkedLoaded : Loaded := ⟨{ Options.default with lint := true }, some linkedFile⟩

theorem linksInReach_linked (target : String) : (linkedHost target).files.LinksInReach := by
  have hreach : octets (placePath ["gocheck.toml"]).text ≤ pathLimit := by decide +kernel
  apply linksInReach_of_mem
  simp [linkedHost, hreach]

theorem readDocument_linked {target : String} {file : Path}
    (htext : (readText (linkedHost target) file).toOption = some "lintOnSave = true\n") :
    readDocument (linkedHost target) file = .ok [("lintOnSave", .bool true)] := by
  have hread : Toml.read "lintOnSave = true\n" = .ok [("lintOnSave", .bool true)] := by cbv
  exact readDocument_of_readText (eq_ok_of_toOption htext) hread

theorem search_linked (target : String)
    (hpath : (canonicalPath (linkedHost target) ⟨.slash, []⟩).toOption = some ⟨.slash, []⟩)
    (hfolder : ((linkedHost target).isDirectory "/").toOption = some true)
    (hfile : ((linkedHost target).isFile linkedFile.text).toOption = some true)
    (htext : (readText (linkedHost target) linkedFile).toOption = some "lintOnSave = true\n") :
    (loadOptions (linkedHost target) none (some ⟨.slash, []⟩)).1 = .ok linkedLoaded := by
  have hsearched : SearchedFrom (linkedHost target) ⟨.slash, []⟩
      [linkedFile, ⟨.slash, [".gocheck.toml"]⟩, ⟨.slash, ["pyproject.toml"]⟩] :=
    .walk (eq_ok_of_toOption hpath) (eq_ok_of_toOption hfolder) (.root rfl)
  have hdecides : Decides (linkedHost target) linkedFile (.ok linkedLoaded) :=
    .loaded (eq_ok_of_toOption hfile) (.document (by decide) (readDocument_linked htext)) rfl
  have hnone : ∀ g ∈ ([] : List Path), Skips (linkedHost target) g := List.forall_mem_nil _
  rw [loadOptions_none, Option.getD_some, hsearched.discover_eq]
  exact loadFirst_eq_iff.mpr (.decided rfl hnone hdecides)

theorem loadOptions_found_linked :
    (linkedHost "shared/options.toml").files.LinksInReach
      ∧ (loadOptions (linkedHost "shared/options.toml") none (some ⟨.slash, []⟩)).1
        = .ok linkedLoaded
      ∧ (loadOptions (linkedHost "shared/options.toml") (some linkedFile) none).1
        = .ok ⟨linkedLoaded.options, some ⟨.slash, ["shared", "options.toml"]⟩⟩ := by
  have hlinks := linksInReach_linked "shared/options.toml"
  have hfound := search_linked "shared/options.toml" (by decide +kernel)
    (by decide +kernel) (by decide +kernel) (by decide +kernel)
  obtain ⟨place, -, hplace, -, -, hagree⟩ := loadOptions_found hlinks hfound
  have hown : (linkedHost "shared/options.toml").files.placeOf? [] linkedFile.text
      = some ["shared", "options.toml"] := by decide +kernel
  obtain rfl := Option.some.inj (hplace.symm.trans hown)
  have hpassable : Passable (placePath ["shared", "options.toml"]).text := by
    unfold Passable
    decide +kernel
  exact ⟨hlinks, hfound, hagree (by decide) hpassable none⟩

/-- **Options that are found and cannot be loaded by name**: the link stands where a file of its
    own would, and all of its document are options; but it leads to a project file, and named it
    is read for an entry that is not there. -/
theorem not_loadOptions_linked :
    (loadOptions (linkedHost "shared/pyproject.toml") none (some ⟨.slash, []⟩)).1
        = .ok linkedLoaded
      ∧ (loadOptions (linkedHost "shared/pyproject.toml") (some linkedFile) none).1
        = .error (.noSection ⟨.slash, ["shared", "pyproject.toml"]⟩) := by
  -- the same file is found by its own name and refused by the name of the link's target
  have hfound := search_linked "shared/pyproject.toml" (by decide +kernel)
    (by decide +kernel) (by decide +kernel) (by decide +kernel)
  have hreal : canonicalPath (linkedHost "shared/pyproject.toml") linkedFile
      = .ok ⟨.slash, ["shared", "pyproject.toml"]⟩ := eq_ok_of_toOption (by decide +kernel)
  have hfile : (linkedHost "shared/pyproject.toml").isFile
      (Path.text ⟨.slash, ["shared", "pyproject.toml"]⟩) = .ok true :=
    eq_ok_of_toOption (by decide +kernel)
  have hdocument : readDocument (linkedHost "shared/pyproject.toml")
      ⟨.slash, ["shared", "pyproject.toml"]⟩ = .ok [("lintOnSave", .bool true)] :=
    readDocument_linked (by decide +kernel)
  have hcandidate : loadCandidate (linkedHost "shared/pyproject.toml") true
      ⟨.slash, ["shared", "pyproject.toml"]⟩
        = .error (.noSection ⟨.slash, ["shared", "pyproject.toml"]⟩) := by
    have hname : Path.name ⟨.slash, ["shared", "pyproject.toml"]⟩ = projectFile := rfl
    have hnone : toolEntry? [("lintOnSave", .bool true)] = none := rfl
    rw [loadCandidate_of_isFile hfile hdocument, optionsIn_of_eq hname, hnone]
    rfl
  refine ⟨hfound, ?_⟩
  rw [loadOptions_some, loadNamed_of_canonicalPath rfl hreal, hcandidate]
  rfl

end SourceCheck
