import SourceCheck.Command.Run
import SourceCheck.Proofs.Results

/-! # Loads that break down

    A load of options that fails for a reason of the configuration is reported, and the program
    ends with status two.  A load breaks down when it fails for any other reason.  Here it is
    told from the host alone when that is so (`LoadBreaks`): a path cannot be made canonical,
    the system refuses to say what is at a path, or the file that the load comes to holds octets
    that are no UTF-8 or an integer with too many digits.  All other failures are reported, also
    that of a file that may not be read (`load_reported_iff`). -/

namespace SourceCheck

open SourceCheck.Text

variable {h : Host} {f : LoadFailure}

/-! ## Files -/

/-- What breaks a load down at a file that is looked at. -/
inductive BreaksLoad (h : Host) (file : Path) : LoadFailure → Prop
  /-- The system refuses to say whether it is a file. -/
  | refused {e : SystemError} (hfile : h.isFile file.text = .error e) :
    BreaksLoad h file (.refused e file.text)
  /-- Its octets are no UTF-8. -/
  | undecodable {octets : List UInt8} {refusal : Utf8.Refusal}
    (hfile : h.isFile file.text = .ok true)
    (hread : h.files.read h.cwd file.text = .ok octets)
    (htext : Utf8.decodeStrict octets = .error refusal) :
    BreaksLoad h file (.undecodable refusal)
  /-- It holds an integer with too many digits. -/
  | numberTooLong {s : String} {digits : Nat}
    (hfile : h.isFile file.text = .ok true)
    (htext : readText h file = .ok s)
    (hdocument : Toml.read s = .error (.tooLong digits)) :
    BreaksLoad h file (.numberTooLong digits)

theorem BreaksLoad.isConfigurationError {file : Path} (hbreaks : BreaksLoad h file f) :
    f.isConfigurationError = false := by
  cases hbreaks <;> rfl

theorem breaksLoad_of_readText {file : Path} (hfile : h.isFile file.text = .ok true)
    (hread : readText h file = .error f) (hf : f.isConfigurationError = false) :
    BreaksLoad h file f := by
  unfold readText at hread
  split at hread
  · obtain rfl := Except.error.inj hread
    contradiction
  · next octets hoctets =>
    split at hread
    · next refusal htext =>
      obtain rfl := Except.error.inj hread
      exact .undecodable hfile hoctets htext
    · contradiction

theorem breaksLoad_of_readDocument {file : Path} (hfile : h.isFile file.text = .ok true)
    (hread : readDocument h file = .error f) (hf : f.isConfigurationError = false) :
    BreaksLoad h file f := by
  unfold readDocument at hread
  split at hread
  · next e htext =>
    obtain rfl := Except.error.inj hread
    exact breaksLoad_of_readText hfile htext hf
  · next s htext =>
    split at hread
    · contradiction
    · obtain rfl := Except.error.inj hread
      contradiction
    · next digits hdocument =>
      obtain rfl := Except.error.inj hread
      exact .numberTooLong hfile htext hdocument

/-- What is wrong with a section is reported. -/
theorem optionsIn_isConfigurationError {file : Path} {document : List (String × Value)}
    (hoptions : optionsIn file document = .error f) : f.isConfigurationError = true := by
  unfold optionsIn at hoptions
  split at hoptions
  · contradiction
  · split at hoptions
    · split at hoptions
      · contradiction
      · contradiction
      · contradiction
      · obtain rfl := Except.error.inj hoptions
        rfl
    · contradiction

/-- **A candidate**, named or found, fails without a report only if its file breaks the load
    down. -/
theorem breaksLoad_of_loadCandidate {required : Bool} {file : Path}
    (hload : loadCandidate h required file = .error f) (hf : f.isConfigurationError = false) :
    BreaksLoad h file f := by
  unfold loadCandidate at hload
  -- asking whether it is a file may already be refused
  cases hfile : h.isFile file.text with
  | error e =>
    rw [hfile] at hload
    obtain rfl := Except.error.inj hload
    exact .refused hfile
  | ok isFile =>
    rw [hfile] at hload
    cases isFile with
    | false => contradiction
    | true =>
      dsimp only [asking] at hload
      split at hload
      · next e hread =>
        obtain rfl := Except.error.inj hload
        exact breaksLoad_of_readDocument hfile hread hf
      · next document hread =>
        -- what fails after the document was read is a configuration error, contrary to the
        -- assumption
        split at hload
        · next e hoptions =>
          obtain rfl := Except.error.inj hload
          rw [optionsIn_isConfigurationError hoptions] at hf
          contradiction
        · cases required with
          | false => contradiction
          | true =>
            obtain rfl := Except.error.inj hload
            contradiction
        · split at hload
          · contradiction
          · obtain rfl := Except.error.inj hload
            contradiction

/-- **A file that breaks a load down** does so as a candidate, named or found. -/
theorem loadCandidate_of_breaksLoad {file : Path} (hbreaks : BreaksLoad h file f)
    (required : Bool) : loadCandidate h required file = .error f := by
  unfold loadCandidate
  cases hbreaks with
  | refused hfile =>
    rw [hfile]
    rfl
  -- the text is not asked for as bytes, so a file that is not UTF-8 ends the run
  | @undecodable octets refusal hfile hread htext =>
    have hdocument : readDocument h file = .error (.undecodable refusal) := by
      unfold readDocument readText
      rw [hread]
      dsimp only
      rw [htext]
    rw [hfile, hdocument]
    rfl
  -- an integer of too many digits is refused by the language, not by the grammar
  | @numberTooLong s digits hfile htext hdocument =>
    have hread : readDocument h file = .error (.numberTooLong digits) := by
      unfold readDocument
      rw [htext]
      dsimp only
      rw [hdocument]
    rw [hfile, hread]
    rfl

/-- **A file that is there and cannot be read** is reported as such. -/
theorem loadCandidate_of_read_error {file : Path} {e : SystemError}
    (hfile : h.isFile file.text = .ok true) (hread : h.files.read h.cwd file.text = .error e)
    (required : Bool) :
    loadCandidate h required file = .error (.unreadable file (.system e file.text)) := by
  have hdocument : readDocument h file = .error (.unreadable file (.system e file.text)) := by
    unfold readDocument readText
    rw [hread]
  unfold loadCandidate
  rw [hfile, hdocument]
  rfl

/-- **A search** fails at its first candidate that does not just load nothing. -/
theorem loadFirst_eq_error_iff {files : List Path} :
    loadFirst h files = .error f ↔ ∃ before file after, files = before ++ file :: after
      ∧ (∀ g ∈ before, loadCandidate h false g = .ok none)
      ∧ loadCandidate h false file = .error f := by
  -- the search stops at the first error, and what stands in front had nothing to say
  induction files with
  | nil =>
    constructor
    · intro hload
      contradiction
    · rintro ⟨before, file, after, hfiles, -⟩
      cases before <;> contradiction
  | cons g rest ih =>
    unfold loadFirst
    constructor
    · intro hload
      split at hload
      · next e hcandidate =>
        obtain rfl := Except.error.inj hload
        exact ⟨[], g, rest, rfl, fun _ hmem => absurd hmem List.not_mem_nil, hcandidate⟩
      · contradiction
      · next hcandidate =>
        obtain ⟨before, file, after, rfl, hbefore, hfile⟩ := ih.mp hload
        exact ⟨g :: before, file, after, rfl, List.forall_mem_cons.mpr ⟨hcandidate, hbefore⟩, hfile⟩
    · rintro ⟨before, file, after, hfiles, hbefore, hfile⟩
      cases before with
      | nil =>
        obtain ⟨rfl, rfl⟩ := List.cons.inj hfiles
        rw [hfile]
      | cons first before =>
        obtain ⟨rfl, rfl⟩ := List.cons.inj hfiles
        obtain ⟨hfirst, hbefore⟩ := List.forall_mem_cons.mp hbefore
        rw [hfirst]
        exact ih.mpr ⟨before, file, after, rfl, hbefore, hfile⟩

/-! ## Paths -/

/-- What keeps a path from having a canonical form. -/
inductive BreaksPath (h : Host) (p : Path) : LoadFailure → Prop
  /-- It cannot be passed to the system. -/
  | nul (hnul : Host.hasNul p.text = true) : BreaksPath h p .nulInPath
  /-- Its links lead round in a circle. -/
  | circle {c : LinkCircle} (hnul : Host.hasNul p.text = false)
    (hcircle : h.canonical p = .error c) : BreaksPath h p (.circle c)

theorem BreaksPath.isConfigurationError {p : Path} (hbreaks : BreaksPath h p f) :
    f.isConfigurationError = false := by
  cases hbreaks <;> rfl

theorem canonicalPath_eq_error_iff {p : Path} :
    canonicalPath h p = .error f ↔ BreaksPath h p f := by
  unfold canonicalPath
  constructor
  · intro hpath
    split at hpath
    · next hnul =>
      obtain rfl := Except.error.inj hpath
      exact .nul hnul
    · next hnul =>
      split at hpath
      · cases hpath
      · next c hcircle =>
        obtain rfl := Except.error.inj hpath
        exact .circle (Bool.eq_false_iff.mpr hnul) hcircle
  · intro hbreaks
    cases hbreaks with
    | nul hnul => rw [if_pos hnul]
    | circle hnul hcircle => rw [if_neg (Bool.eq_false_iff.mp hnul), hcircle]

/-! ## Loads -/

/-- **A load comes to a file**: to the one that is named, or to a candidate before which all others
    load nothing. -/
inductive ComesToFile (h : Host) : Option Path → Option Path → Path → Prop
  | named {file real : Path} {start : Option Path}
    (hpath : canonicalPath h (file.absolute h.workingPath) = .ok real) :
    ComesToFile h (some file) start real
  | candidate {start : Option Path} {real file : Path} {before after : List Path}
    (hpath : canonicalPath h (start.getD h.workingPath) = .ok real)
    (hfiles : candidates h real = .ok (before ++ file :: after))
    (hbefore : ∀ g ∈ before, loadCandidate h false g = .ok none) : ComesToFile h none start file

/-- What breaks a load of options down, with or without a named file and a start path. -/
inductive LoadBreaks (h : Host) : Option Path → Option Path → LoadFailure → Prop
  /-- The named path has no canonical form. -/
  | namedPath {file : Path} {start : Option Path} {f : LoadFailure}
    (hpath : BreaksPath h (file.absolute h.workingPath) f) : LoadBreaks h (some file) start f
  /-- The start path has no canonical form. -/
  | startPath {start : Option Path} {f : LoadFailure}
    (hpath : BreaksPath h (start.getD h.workingPath) f) : LoadBreaks h none start f
  /-- The system refuses to say whether the start path is a folder. -/
  | startFolder {start : Option Path} {real : Path} {e : SystemError}
    (hpath : canonicalPath h (start.getD h.workingPath) = .ok real)
    (hfolder : h.isDirectory real.text = .error e) :
    LoadBreaks h none start (.refused e real.text)
  /-- The file that it comes to breaks it down. -/
  | file {named start : Option Path} {file : Path} {f : LoadFailure}
    (hcomes : ComesToFile h named start file) (hfile : BreaksLoad h file f) :
    LoadBreaks h named start f

variable {named start : Option Path}

theorem LoadBreaks.isConfigurationError (hbreaks : LoadBreaks h named start f) :
    f.isConfigurationError = false := by
  cases hbreaks with
  | namedPath hpath => exact hpath.isConfigurationError
  | startPath hpath => exact hpath.isConfigurationError
  | startFolder _ _ => rfl
  | file _ hfile => exact hfile.isConfigurationError

theorem candidates_eq_error_iff {p : Path} :
    candidates h p = .error f ↔ ∃ e, h.isDirectory p.text = .error e ∧ f = .refused e p.text := by
  unfold candidates
  cases h.isDirectory p.text with
  | error e =>
    constructor
    · intro hcandidates
      exact ⟨e, rfl, (Except.error.inj hcandidates).symm⟩
    · rintro ⟨e', he, rfl⟩
      obtain rfl := Except.error.inj he
      rfl
  | ok isFolder =>
    constructor
    · intro hcandidates
      contradiction
    · rintro ⟨_, he, -⟩
      contradiction

theorem loadBreaks_of_loadNamed {file : Path} (hload : loadNamed h file = .error f)
    (hf : f.isConfigurationError = false) : LoadBreaks h (some file) start f := by
  unfold loadNamed at hload
  dsimp only at hload
  split at hload
  · next e hpath =>
    obtain rfl := Except.error.inj hload
    exact .namedPath (canonicalPath_eq_error_iff.mp hpath)
  -- the path could be resolved, so what fails is the file it leads to
  · next real hpath =>
    split at hload
    · next e hcandidate =>
      obtain rfl := Except.error.inj hload
      exact .file (.named hpath) (breaksLoad_of_loadCandidate hcandidate hf)
    · contradiction
    · obtain rfl := Except.error.inj hload
      contradiction

theorem loadBreaks_of_discover (hload : discover h (start.getD h.workingPath) = .error f)
    (hf : f.isConfigurationError = false) : LoadBreaks h none start f := by
  unfold discover at hload
  split at hload
  · next e hpath =>
    obtain rfl := Except.error.inj hload
    exact .startPath (canonicalPath_eq_error_iff.mp hpath)
  · next real hpath =>
    split at hload
    · next e hfiles =>
      obtain rfl := Except.error.inj hload
      obtain ⟨e, hfolder, rfl⟩ := candidates_eq_error_iff.mp hfiles
      exact .startFolder hpath hfolder
    -- the search went on past the files that skip, to the one that fails
    · next files hfiles =>
      obtain ⟨before, file, after, rfl, hbefore, hfile⟩ := loadFirst_eq_error_iff.mp hload
      exact .file (.candidate hpath hfiles hbefore) (breaksLoad_of_loadCandidate hfile hf)

/-- **A load fails as the file does that it comes to.** -/
theorem loadOptions_of_comesToFile {file : Path} (hcomes : ComesToFile h named start file)
    (hfile : ∀ required, loadCandidate h required file = .error f) :
    (loadOptions h named start).1 = .error f := by
  cases hcomes with
  | named hpath =>
    unfold loadOptions loadNamed
    dsimp only
    rw [hpath]
    dsimp only
    rw [hfile true]
  | candidate hpath hfiles hbefore =>
    unfold loadOptions discover
    dsimp only
    rw [hpath]
    dsimp only
    rw [hfiles]
    exact loadFirst_eq_error_iff.mpr ⟨_, _, _, rfl, hbefore, hfile false⟩

theorem loadOptions_of_loadBreaks (hbreaks : LoadBreaks h named start f) :
    (loadOptions h named start).1 = .error f := by
  cases hbreaks with
  | namedPath hpath =>
    unfold loadOptions loadNamed
    dsimp only
    rw [canonicalPath_eq_error_iff.mpr hpath]
  | startPath hpath =>
    unfold loadOptions discover
    dsimp only
    rw [canonicalPath_eq_error_iff.mpr hpath]
  | startFolder hpath hfolder =>
    unfold loadOptions discover
    dsimp only
    rw [hpath]
    dsimp only
    rw [candidates_eq_error_iff.mpr ⟨_, hfolder, rfl⟩]
  | file hcomes hfile => exact loadOptions_of_comesToFile hcomes (loadCandidate_of_breaksLoad hfile)

/-- **A load breaks down** just as the host tells. -/
theorem loadOptions_breaks_iff :
    (loadOptions h named start).1 = .error f ∧ f.isConfigurationError = false
      ↔ LoadBreaks h named start f := by
  constructor
  · rintro ⟨hload, hf⟩
    cases named with
    | some file => exact loadBreaks_of_loadNamed hload hf
    | none => exact loadBreaks_of_discover hload hf
  · intro hbreaks
    exact ⟨loadOptions_of_loadBreaks hbreaks, hbreaks.isConfigurationError⟩

/-! ## Reports -/

/-- What a request to check a file answers if its options cannot be loaded. -/
theorem CommandLine.runCheck_of_load_error {s : System} {time : String} {log : Log.Setup}
    {r : CommandLine.CheckRequest} (hconfig : r.config = named.map some)
    (hload : (loadOptions h named (some (r.file.absolute h.workingPath).parent)).1 = .error f) :
    CommandLine.runCheck s h time log r
      = if f.isConfigurationError then .ok ⟨2, "", CommandLine.remark f.message, h.files⟩
        else .error (.load f) := by
  obtain ⟨records, hrecords⟩ : ∃ records,
      loadOptions h named (some (r.file.absolute h.workingPath).parent) = (.error f, records) :=
    ⟨_, Prod.ext hload rfl⟩
  unfold CommandLine.runCheck CommandLine.runCheckIn
  rw [hconfig]
  cases named with
  | none =>
    dsimp only [Option.map_none, Option.getD_none]
    rw [hrecords]
  | some file =>
    dsimp only [Option.map_some, Option.getD_some]
    rw [hrecords]

/-- **What is reported.**  All failures of a load are reported as failures of the configuration
    just if nothing breaks the load down.  A file that the load comes to and that cannot be read
    is reported as such.  A request to check a file answers a failure with status two, an empty
    output and the wording of the failure, just if the failure is no breakdown. -/
theorem load_reported_iff (h : Host) (named start : Option Path) :
    ((∀ f, (loadOptions h named start).1 = .error f → f.isConfigurationError = true)
        ↔ ∀ f, ¬LoadBreaks h named start f)
      ∧ (∀ file e, ComesToFile h named start file → h.isFile file.text = .ok true →
        h.files.read h.cwd file.text = .error e →
        (loadOptions h named start).1 = .error (.unreadable file (.system e file.text)))
      ∧ ∀ (s : System) (time : String) (log : Log.Setup) (r : CommandLine.CheckRequest)
          (f : LoadFailure),
        r.config = named.map some → start = some (r.file.absolute h.workingPath).parent →
        (loadOptions h named start).1 = .error f →
        (CommandLine.runCheck s h time log r
            = .ok ⟨2, "", CommandLine.remark f.message, h.files⟩
          ↔ ¬LoadBreaks h named start f) := by
  refine ⟨?_, ?_, ?_⟩
  · constructor
    · intro hreported f hbreaks
      obtain ⟨hload, hf⟩ := loadOptions_breaks_iff.mpr hbreaks
      rw [hreported f hload] at hf
      contradiction
    · intro hsound f hload
      -- an error that is no configuration error is a breakdown, by the characterisation above
      cases hf : f.isConfigurationError with
      | true => rfl
      | false => exact absurd (loadOptions_breaks_iff.mp ⟨hload, hf⟩) (hsound f)
  · intro file e hcomes hfile hread
    exact loadOptions_of_comesToFile hcomes (loadCandidate_of_read_error hfile hread)
  · rintro s time log r f hconfig rfl hload
    rw [CommandLine.runCheck_of_load_error hconfig hload, ← loadOptions_breaks_iff]
    -- the command line turns exactly the configuration errors into an answer
    cases hf : f.isConfigurationError with
    | true => simp [hload]
    | false => simp [hload]

/-- A host with a file of options, by its octets and the rights to it. -/
def fileHost (octets : List UInt8) (mode : Nat) : Host where
  files := { entries := [(["gocheck.toml"], .file octets mode)] }
  cwd := []
  environment := []

/-- A host with a file of options that is no UTF-8. -/
def undecodableHost : Host := fileHost [0xff] 0o644

/-- A host with a file of options that may not be read. -/
def lockedHost : Host := fileHost [] 0o200

/-- The name of that file. -/
def optionsName : Path := Path.ofText "gocheck.toml"

/-- Its path. -/
def optionsFile : Path := ⟨.slash, ["gocheck.toml"]⟩

/-- A request to check a file with the options of that file. -/
def fileRequest : CommandLine.CheckRequest where
  file := Path.ofText "a.go"
  config := some (some optionsName)
  overrides := default
  lacksTimeout := false
  listing := none
  showLog := false

/-- The failure for a file that is no UTF-8. -/
def undecodableFailure : LoadFailure := .undecodable ⟨0, [0xff], .start⟩

theorem comesToFile_undecodableHost (start : Option Path) :
    ComesToFile undecodableHost (some optionsName) start optionsFile :=
  .named (eq_ok_of_toOption (by decide +kernel))

theorem loadBreaks_undecodableHost (start : Option Path) :
    LoadBreaks undecodableHost (some optionsName) start undecodableFailure := by
  have hfile : undecodableHost.isFile optionsFile.text = .ok true :=
    eq_ok_of_toOption (by decide +kernel)
  have hread : undecodableHost.files.read undecodableHost.cwd optionsFile.text = .ok [0xff] :=
    eq_ok_of_toOption (by decide +kernel)
  exact .file (comesToFile_undecodableHost start) (.undecodable hfile hread rfl)

theorem load_reported_iff_undecodable :
    fileRequest.config = (some optionsName).map some
      ∧ some (fileRequest.file.absolute undecodableHost.workingPath).parent
        = some ⟨.slash, []⟩
      ∧ (loadOptions undecodableHost (some optionsName) (some ⟨.slash, []⟩)).1
        = .error undecodableFailure
      ∧ (∀ s : System, CommandLine.runCheck s undecodableHost "" default fileRequest
          = .ok ⟨2, "", CommandLine.remark undecodableFailure.message, undecodableHost.files⟩
        ↔ ¬LoadBreaks undecodableHost (some optionsName) (some ⟨.slash, []⟩) undecodableFailure)
      ∧ (loadOptions lockedHost (some optionsName) none).1
        = .error (.unreadable optionsFile (.system .notPermitted "/gocheck.toml")) := by
  have hstart : some (fileRequest.file.absolute undecodableHost.workingPath).parent
      = some ⟨.slash, []⟩ := by decide +kernel
  have hload := loadOptions_of_loadBreaks (loadBreaks_undecodableHost (some ⟨.slash, []⟩))
  obtain ⟨-, -, hanswer⟩ := load_reported_iff undecodableHost (some optionsName)
    (some ⟨.slash, []⟩)
  obtain ⟨-, hunread, -⟩ := load_reported_iff lockedHost (some optionsName) none
  refine ⟨rfl, hstart, hload, ?_, ?_⟩
  · intro s
    exact hanswer s "" default fileRequest undecodableFailure rfl hstart.symm hload
  · have hcomes : ComesToFile lockedHost (some optionsName) none optionsFile :=
      .named (eq_ok_of_toOption (by decide +kernel))
    exact hunread optionsFile .notPermitted hcomes (eq_ok_of_toOption (by decide +kernel)) rfl

/-- **A file that is not reported**: its octets are no UTF-8, and the load and the request fail
    for no reason of the configuration. -/
theorem not_reported_undecodable :
    (loadOptions undecodableHost (some optionsName) none).1 = .error undecodableFailure
      ∧ undecodableFailure.isConfigurationError = false
      ∧ ∀ s : System, CommandLine.runCheck s undecodableHost "" default fileRequest
        = .error (.load undecodableFailure) := by
  refine ⟨loadOptions_of_loadBreaks (loadBreaks_undecodableHost none), rfl, fun s => ?_⟩
  have hrequest : CommandLine.runCheck s undecodableHost "" default fileRequest
      = if undecodableFailure.isConfigurationError
        then .ok ⟨2, "", CommandLine.remark undecodableFailure.message, undecodableHost.files⟩
        else .error (.load undecodableFailure) :=
    CommandLine.runCheck_of_load_error rfl
      (loadOptions_of_loadBreaks (loadBreaks_undecodableHost _))
  exact hrequest

end SourceCheck
