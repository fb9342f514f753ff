import SourceCheck.Command.Run
import SourceCheck.Proofs.Output.Listings
import SourceCheck.Proofs.Results

/-! # Answers to requests for a check

    A request for a check is answered in one of three ways: its options are not loaded,
    the output of a tool is not read, or there are findings.  The exit status, the standard
    output and the findings agree in each (`runIn_check`), for every system that runs the
    tools and every order in which they end. -/

namespace SourceCheck.CommandLine

open SourceCheck SourceCheck.Text SourceCheck.Json

/-! ## Listings -/

theorem entry_ne_empty (f : Finding) : f.entry ≠ "" := by
  intro hempty
  have hchars := congrArg String.toList hempty
  simp [Finding.entry] at hchars

/-- Only the text form of no findings is empty. -/
theorem listing_eq_empty_iff (format : ListingFormat) (fs : List Finding) :
    listing format fs = "" ↔ format = .text ∧ fs = [] := by
  cases format with
  | text =>
    cases fs with
    | nil => simp [listing, joinWith]
    | cons f fs =>
      have hentry : f.entry.toList ≠ [] := fun h => entry_ne_empty f (String.toList_inj.mp h)
      -- an entry is never empty, so neither is a list that starts with one
      have hne : listing .text (f :: fs) ≠ "" := by
        intro hempty
        have hchars := congrArg String.toList hempty
        rw [listing, List.map_cons, toList_joinWith_cons] at hchars
        exact hentry (List.append_eq_nil_iff.mp hchars).1
      simp [hne]
  | json =>
    -- the JSON text of any value starts with a character, brackets included
    obtain ⟨c, body, htext, -⟩ := (readsBack_writeAt (plain_findings fs) spread 0).opens
    have hne : listing .json fs ≠ "" := by
      intro hempty
      have hchars := congrArg String.toList hempty
      rw [show (listing .json fs).toList = c :: body from htext] at hchars
      contradiction
    simp [hne]

theorem outputOf_eq (format : ListingFormat) (fs : List Finding) :
    outputOf format fs = if listing format fs = "" then "" else listing format fs ++ "\n" := by
  simp [outputOf]

/-- The status is one for an error among the findings, and zero else. -/
theorem statusOf_eq (fs : List Finding) :
    statusOf fs = if ∃ f ∈ fs, f.severity = .error then 1 else 0 := by
  simp [statusOf]

/-! ## Objects in a listing -/

theorem severity_get? (f : Finding) :
    f.toValue.get? "severity" = some (.text f.severity.name) := by
  rfl

theorem severityName_eq_error_iff (s : Severity) : s.name = "error" ↔ s = .error := by
  cases s <;> decide

/-- The listing for a program, with the line feed behind it, holds an object of severity error
    just if the findings hold an error. -/
theorem exists_error_object_iff (fs : List Finding) :
    (∃ item ∈ fs.map Finding.toValue, item.get? "severity" = some (.text "error"))
      ↔ ∃ f ∈ fs, f.severity = .error := by
  constructor
  · rintro ⟨item, hitem, hseverity⟩
    obtain ⟨f, hf, rfl⟩ := List.mem_map.mp hitem
    rw [severity_get?] at hseverity
    injection hseverity with hvalue
    injection hvalue with hname
    exact ⟨f, hf, (severityName_eq_error_iff f.severity).mp hname⟩
  · rintro ⟨f, hf, hseverity⟩
    refine ⟨f.toValue, List.mem_map_of_mem hf, ?_⟩
    rw [severity_get?, hseverity]
    rfl

/-- What is written for a program reads as the findings. -/
theorem read_outputOf (fs : List Finding) :
    Json.read (outputOf .json fs) = some (.list (fs.map Finding.toValue)) := by
  have hne : listing .json fs ≠ "" := by simp [listing_eq_empty_iff]
  have hfeed : IsGap "\n".toList := by simp [IsGap, isGapChar]
  rw [outputOf_eq, if_neg hne]
  exact read_listing_append fs hfeed

/-! ## Answers -/

/-- Nothing is written but the wording of a failure, to the standard error and at its end. -/
structure Answer.IsFailure (a : Answer) (message : String) : Prop where
  status : a.status = 2
  output : a.output = ""
  errors : ∃ before, a.errors = before ++ ("[gocheck] " ++ message ++ "\n")

/-- The listing of some findings is written, with a line feed behind it unless it is empty, and
    the status tells whether one of them is an error. -/
structure Answer.IsListing (a : Answer) (format : ListingFormat) (fs : List Finding) : Prop where
  output : a.output = if listing format fs = "" then "" else listing format fs ++ "\n"
  empty : listing format fs = "" ↔ format = .text ∧ fs = []
  status : a.status = if ∃ f ∈ fs, f.severity = .error then 1 else 0
  /-- A program can tell the status from the array it reads. -/
  array : format = .json → ∃ items, Json.read a.output = some (.list items)
    ∧ (a.status = 1 ↔ ∃ item ∈ items, item.get? "severity" = some (.text "error"))

theorem isFailure_remark (before message : String) (files : FileSystem) :
    Answer.IsFailure ⟨2, "", before ++ remark message, files⟩ message :=
  ⟨rfl, rfl, before, rfl⟩

theorem isListing_statusOf (format : ListingFormat) (fs : List Finding) (errors : String)
    (files : FileSystem) :
    Answer.IsListing ⟨statusOf fs, outputOf format fs, errors, files⟩ format fs := by
  refine ⟨outputOf_eq format fs, listing_eq_empty_iff format fs, statusOf_eq fs, ?_⟩
  rintro rfl
  refine ⟨fs.map Finding.toValue, read_outputOf fs, ?_⟩
  rw [exists_error_object_iff]
  simp only [statusOf_eq]
  split
  · next herror => exact iff_of_true rfl herror
  · next hnone => exact iff_of_false (by decide) hnone

theorem Answer.IsListing.status_ne_two {a : Answer} {format : ListingFormat} {fs : List Finding}
    (h : a.IsListing format fs) : a.status ≠ 2 := by
  rw [h.status]
  split <;> decide

/-! ## The course of a request -/

/-- The file that a request is about. -/
def CheckRequest.target (r : CheckRequest) (h : Host) : Path := r.file.absolute h.workingPath

/-- The loading of the options for a request. -/
def CheckRequest.load (r : CheckRequest) (h : Host) : Except LoadFailure Loaded :=
  (loadOptions h (r.config.getD none) (some (r.target h).parent)).1

/-- What the check of a request gives, with the options that were loaded and those of the
    request on top of them. -/
def CheckRequest.findings (x : Executor) (order : Order) (h : Host) (r : CheckRequest)
    (loaded : Loaded) : Except CheckError (List Finding) :=
  (checkIn x order h (.usual h) (r.target h) (.options (r.optionsOn loaded.options))).result

/-- Nothing goes wrong with a request but what the program reports: a configuration that is
    not valid, and the output of a tool that cannot be read. -/
structure OnlyReports (x : Executor) (order : Order) (h : Host) (log : LogRequest)
    (r : CheckRequest) : Prop where
  /-- The log is set up. -/
  log : ∃ setup, log.setup h.environment = .ok setup
  /-- The name of the file with options is not missing. -/
  config : r.config ≠ some none
  /-- If the options are not loaded, the configuration is to blame. -/
  load : ∀ f, r.load h = .error f → f.isConfigurationError = true
  /-- If there are no findings, the output of a tool is to blame. -/
  findings : ∀ loaded e, r.load h = .ok loaded → r.findings x order h loaded = .error e →
    ∃ tool cause, e = .failed (.unreadable tool cause)
  /-- The form of the findings is not missing where it is needed. -/
  listing : ∀ loaded fs, r.load h = .ok loaded → r.findings x order h loaded = .ok fs →
    r.listing ≠ none

section Requests

variable (x : Executor) (order : Order) {h : Host} (time : String) {r : CheckRequest}

theorem runCheckIn_of_load_error (log : Log.Setup) {f : LoadFailure}
    (hconfig : r.config ≠ some none) (hload : r.load h = .error f) :
    runCheckIn x order h time log r
      = if f.isConfigurationError then .ok ⟨2, "", remark f.message, h.files⟩
        else .error (.load f) := by
  unfold CheckRequest.load CheckRequest.target at hload
  unfold runCheckIn
  dsimp only
  split
  · next hnone => exact absurd hnone hconfig
  · split
    · next g records heq =>
      rw [heq] at hload
      obtain rfl := Except.error.inj hload
      rfl
    · next loaded records heq =>
      rw [heq] at hload
      contradiction

theorem runCheckIn_of_load_ok (log : Log.Setup) {loaded : Loaded} (hconfig : r.config ≠ some none)
    (hload : r.load h = .ok loaded) :
    ∃ records, runCheckIn x order h time log r
      = runLoadedIn x order h time log r (r.target h) loaded.options records := by
  unfold CheckRequest.load CheckRequest.target at hload
  unfold runCheckIn
  dsimp only
  split
  · next hnone => exact absurd hnone hconfig
  · split
    · next g records heq =>
      rw [heq] at hload
      contradiction
    · next loaded' records heq =>
      rw [heq] at hload
      obtain rfl := Except.ok.inj hload
      exact ⟨records, rfl⟩

theorem runLoadedIn_of_unreadable (log : Log.Setup) (records : List Log.Record) {loaded : Loaded}
    {tool cause : String}
    (hfindings : r.findings x order h loaded = .error (.failed (.unreadable tool cause))) :
    ∃ before files, runLoadedIn x order h time log r (r.target h) loaded.options records
      = .ok ⟨2, "", before ++ remark (CheckFailure.unreadable tool cause).message, files⟩ := by
  unfold CheckRequest.findings at hfindings
  unfold runLoadedIn
  dsimp only
  rw [hfindings]
  exact ⟨_, _, rfl⟩

theorem runLoadedIn_of_findings (log : Log.Setup) (records : List Log.Record) {loaded : Loaded}
    {fs : List Finding} {format : ListingFormat}
    (hfindings : r.findings x order h loaded = .ok fs) (hlisting : r.listing = some format) :
    ∃ errors files, runLoadedIn x order h time log r (r.target h) loaded.options records
      = .ok ⟨statusOf fs, outputOf format fs, errors, files⟩ := by
  unfold CheckRequest.findings at hfindings
  unfold runLoadedIn
  dsimp only
  rw [hfindings, hlisting]
  exact ⟨_, _, rfl⟩

/-- A request for a check is answered as the check of a file is. -/
theorem runIn_of_readRequest {args : List String} {log : LogRequest} {setup : Log.Setup}
    (hrequest : readRequest args = .ok (.check log r))
    (hlog : log.setup h.environment = .ok setup) :
    runIn x order h time args = runCheckIn x order h time setup r := by
  unfold runIn answerIn
  simp only [hrequest, hlog]

/-- **Status, output and findings agree.**  A request that is accepted and meets nothing but
    reported failures has an answer.  Its status is two just if the options are not loaded or
    the output of a tool is not read, and then the answer is that failure.  Else the answer is
    the listing of the findings. -/
theorem runIn_check {args : List String} {log : LogRequest}
    (hrequest : readRequest args = .ok (.check log r)) (hreports : OnlyReports x order h log r) :
    ∃ a, runIn x order h time args = .ok a
      ∧ (a.status = 2 ↔ (∃ f, r.load h = .error f)
        ∨ ∃ loaded tool cause, r.load h = .ok loaded
          ∧ r.findings x order h loaded = .error (.failed (.unreadable tool cause)))
      ∧ (∀ f, r.load h = .error f → a.IsFailure f.message)
      ∧ (∀ loaded e, r.load h = .ok loaded → r.findings x order h loaded = .error e →
        a.IsFailure e.message)
      ∧ ∀ loaded fs, r.load h = .ok loaded → r.findings x order h loaded = .ok fs →
        ∃ format, r.listing = some format ∧ a.IsListing format fs := by
  obtain ⟨setup, hlog⟩ := hreports.log
  have hrun := runIn_of_readRequest x order time hrequest hlog
  cases hload : r.load h with
  | error f =>
    -- nothing was checked: the configuration is refused and the run ends at once
    have hanswer := runCheckIn_of_load_error x order time setup hreports.config hload
    rw [if_pos (hreports.load f hload)] at hanswer
    refine ⟨_, hrun.trans hanswer, by simp, ?_, by simp, by simp⟩
    rintro g hg
    obtain rfl := Except.error.inj hg
    exact isFailure_remark "" _ _
  | ok loaded =>
    obtain ⟨records, hloaded⟩ := runCheckIn_of_load_ok x order time setup hreports.config hload
    cases hfindings : r.findings x order h loaded with
    | error e =>
      -- a tool's answer could not be read, the only refusal left once options are loaded
      obtain ⟨tool, cause, rfl⟩ := hreports.findings loaded e hload hfindings
      obtain ⟨before, files, hanswer⟩ :=
        runLoadedIn_of_unreadable x order time setup records hfindings
      refine ⟨_, hrun.trans (hloaded.trans hanswer), ?_, by simp, ?_, ?_⟩
      · exact iff_of_true rfl (.inr ⟨loaded, tool, cause, rfl, hfindings⟩)
      · rintro loaded' e hloaded' he
        obtain rfl := Except.ok.inj hloaded'
        obtain rfl := Except.error.inj (hfindings.symm.trans he)
        exact isFailure_remark before _ files
      · rintro loaded' fs hloaded' hfs
        obtain rfl := Except.ok.inj hloaded'
        cases hfindings.symm.trans hfs
    | ok fs =>
      -- the run reached its listing; only here can the status be 0 or 1
      obtain ⟨format, hlisting⟩ := Option.ne_none_iff_exists'.mp
        (hreports.listing loaded fs hload hfindings)
      obtain ⟨errors, files, hanswer⟩ :=
        runLoadedIn_of_findings x order time setup records hfindings hlisting
      have hlists := isListing_statusOf format fs errors files
      refine ⟨_, hrun.trans (hloaded.trans hanswer), ?_, by simp, ?_, ?_⟩
      · refine iff_of_false hlists.status_ne_two ?_
        rintro (⟨f, hf⟩ | ⟨loaded', tool, cause, hloaded', hcause⟩)
        · cases hf
        · obtain rfl := Except.ok.inj hloaded'
          cases hfindings.symm.trans hcause
      · rintro loaded' e hloaded' he
        obtain rfl := Except.ok.inj hloaded'
        cases hfindings.symm.trans he
      · rintro loaded' fs' hloaded' hfs
        obtain rfl := Except.ok.inj hloaded'
        obtain rfl := Except.ok.inj (hfindings.symm.trans hfs)
        exact ⟨format, hlisting, hlists⟩

end Requests

/-- A host with the tool for builds. -/
def toolHost : Host where
  files := { entries := [(["bin"], .directory 0o755), (["bin", "go"], .file [] 0o755)] }
  cwd := []
  environment := []

/-- The tool finds one error, whatever it is told. -/
def findsError : Executor := fun h _ _ _ => (.finished 1 "" "a.go:3:1: error: broken" 40, h.files)

/-- A command line that asks for a build and a listing for a program. -/
def jsonArgs : List String := ["check", "a.go", "--build", "--format", "json"]

/-- The check that it asks for. -/
def jsonRequest : CheckRequest :=
  checkRequest [.command "check", .file (Path.ofText "a.go"), .switch .build true,
    .listing (some .json)]

theorem readRequest_jsonArgs :
    readRequest jsonArgs = .ok (.check ⟨some .text, some .warning⟩ jsonRequest) := by
  have hread : programGrammar.read jsonArgs = .ok
      [.command "check", .file (Path.ofText "a.go"), .switch .build true,
        .listing (some .json)] :=
    eq_ok_of_toOption (by decide +kernel)
  unfold readRequest
  rw [hread]
  rfl

/-- The only task of a check comes to its end. -/
def threeMoves : Order := fun _ => [.advance 0, .advance 0, .advance 0]

theorem load_jsonRequest : jsonRequest.load toolHost = .ok ⟨Options.default, none⟩ := by rfl

/-- What the tool finds. -/
def buildFinding : Finding :=
  ⟨⟨.slash, ["a.go"]⟩, 3, 1, "error: broken", .error, some "go", some .build⟩

theorem findings_jsonRequest :
    jsonRequest.findings findsError threeMoves toolHost ⟨Options.default, none⟩
      = .ok [buildFinding] := eq_ok_of_toOption (by decide +kernel)

theorem onlyReports_jsonRequest :
    OnlyReports findsError threeMoves toolHost ⟨some .text, some .warning⟩ jsonRequest where
  log := ⟨⟨.text, .warning⟩, by rfl⟩
  config := by decide
  load := by
    intro f hf
    cases load_jsonRequest.symm.trans hf
  findings := by
    intro loaded e hload he
    obtain rfl := Except.ok.inj (load_jsonRequest.symm.trans hload)
    cases findings_jsonRequest.symm.trans he
  listing := by
    intro loaded fs _ _
    decide

/-- A finding that is an error, in a listing for a program, and status one. -/
theorem runIn_check_jsonArgs :
    readRequest jsonArgs = .ok (.check ⟨some .text, some .warning⟩ jsonRequest)
      ∧ OnlyReports findsError threeMoves toolHost ⟨some .text, some .warning⟩ jsonRequest
      ∧ ∃ a, runIn findsError threeMoves toolHost "" jsonArgs = .ok a
        ∧ a.IsListing .json [buildFinding] ∧ a.status = 1 := by
  refine ⟨readRequest_jsonArgs, onlyReports_jsonRequest, ?_⟩
  obtain ⟨a, ha, -, -, -, hlisting⟩ :=
    runIn_check findsError threeMoves "" readRequest_jsonArgs onlyReports_jsonRequest
  obtain ⟨format, hformat, hlists⟩ := hlisting _ _ load_jsonRequest findings_jsonRequest
  obtain rfl := Option.some.inj hformat
  exact ⟨a, ha, hlists, hlists.status⟩

end SourceCheck.CommandLine
