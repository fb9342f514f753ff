import SourceCheck.Proofs.Tool.Loaders
import SourceCheck.Proofs.Tool.Traces
import SourceCheck.StandIn.System
import SourceCheck.Tool.Locate

/-! # The binary that is found and the file that is started

    The binary of a tool is a path.  It is looked for from the working directory of the program,
    but its process enters the directory of the checked file first and reads the path from there.
    So the file that was found is started if its path starts at the root, as do the paths on first
    lines that lead on from it, and this is so of every path that a search among folders at the
    root finds.  A relative path is read anew: the file that was found is started only if the path
    leads to it from the other directory as well (`locate_starts`).  If nothing is started,
    the user is told that the tool is missing.  This is so of every system that runs files as
    `System.Loads` tells. -/

namespace SourceCheck

open SourceCheck.Text

/-! ## Files that are started -/

namespace FileSystem

variable {fs : FileSystem} {cwd : Place} {path : String}

theorem ne_empty_of_placeOf? {place : Place} (h : fs.placeOf? cwd path = some place) :
    path ≠ "" := by
  rintro rfl
  contradiction

theorem exists_placeOf?_of_stat {e : Entry} (h : fs.stat cwd path = .ok e) :
    ∃ place, fs.placeOf? cwd path = some place := by
  unfold stat at h
  unfold placeOf?
  split at h
  · contradiction
  · next place e' hfind =>
    rw [hfind]
    exact ⟨place, rfl⟩
  · contradiction

end FileSystem

namespace Invocation

variable {s : System} {reads : FileSystem → Place → String → List String} {h : Host}
  {i : Invocation} {d q : Place}

/-- The system runs the file at a path, read from a directory, as the process of an
    invocation. -/
def isLoaded (s : System) (h : Host) (i : Invocation) (cwd : Place) (path : String) : Bool :=
  (s { h with cwd := cwd } (i.timeout.bind Seconds.micros?) path i.argv).isOk

/-- What is run is somewhere. -/
theorem exists_placeOf?_of_isLoaded (hloads : s.Loads reads) {path : String}
    (hrun : i.isLoaded s h d path = true) : ∃ place, h.files.placeOf? d path = some place := by
  obtain ⟨e, hstat⟩ := hloads.found hrun
  exact FileSystem.exists_placeOf?_of_stat hstat

/-- A file whose paths start at the root is run from every directory or from none. -/
theorem isLoaded_of_rooted (hloads : s.Loads reads) {path : String}
    (hpaths : ∀ r ∈ reads h.files h.cwd path, startsWith r "/" = true) (cwd : Place) :
    i.isLoaded s h cwd path = i.isLoaded s h h.cwd path :=
  hloads.rooted hpaths cwd (i.timeout.bind Seconds.micros?) i.argv

/-- **The place of the file that is started**: the process enters its directory, and the first
    path at which the system runs a file from there is used. -/
def startedFile? (s : System) (h : Host) (i : Invocation) : Option Place :=
  if i.holdsNul then none
  else match h.files.enter h.cwd i.directory.text with
    | .error _ => none
    | .ok d => ((programPaths h i.program).find? (i.isLoaded s h d)).bind (h.files.placeOf? d)

theorem startedFile?_eq (hnul : i.holdsNul = false)
    (hdirectory : h.files.enter h.cwd i.directory.text = .ok d) :
    i.startedFile? s h
      = ((programPaths h i.program).find? (i.isLoaded s h d)).bind (h.files.placeOf? d) := by
  unfold startedFile?
  rw [hnul, hdirectory]
  rfl

theorem exists_of_startedFile? (hstarted : i.startedFile? s h = some q) :
    i.holdsNul = false ∧ ∃ d path, h.files.enter h.cwd i.directory.text = .ok d
      ∧ (programPaths h i.program).find? (i.isLoaded s h d) = some path
      ∧ h.files.placeOf? d path = some q := by
  unfold startedFile? at hstarted
  split at hstarted
  · contradiction
  · next hnul =>
    split at hstarted
    · contradiction
    · next d hdirectory =>
      obtain ⟨path, hfound, hplace⟩ := Option.bind_eq_some_iff.mp hstarted
      exact ⟨Bool.eq_false_iff.mpr hnul, d, path, hdirectory, hfound, hplace⟩

/-! ### Runs -/

/-- What becomes of an invocation by what the system says of its start, and the files
    afterwards. -/
def outcomeOf (h : Host) (i : Invocation) :
    Except SystemError (Ending × FileSystem) → Outcome × FileSystem
  | .error e => (.refused e i.program, h.files)
  | .ok (ending, files) =>
    if i.timeout.any Seconds.isTooLarge then (.uncountable, h.files)
    else (Outcome.ofEnding ending, files)

theorem execute_of_directory (hnul : i.holdsNul = false)
    (hdirectory : h.files.enter h.cwd i.directory.text = .ok d) :
    execute s h i.argv i.directory i.timeout
      = i.outcomeOf h (startFirst s { h with cwd := d } (i.timeout.bind Seconds.micros?) i.argv
          .notFound (programPaths h i.program)) := by
  have hcommand : i.argv.isEmpty = false := rfl
  have hprogram : i.argv.head?.getD "" = i.program := rfl
  have hargs : (i.argv.any Host.hasNul || Host.hasNul i.directory.text) = false := hnul
  unfold execute
  dsimp only
  rw [hcommand, hargs, hprogram, hdirectory, if_neg Bool.false_ne_true, if_neg Bool.false_ne_true]
  dsimp only
  cases startFirst s { h with cwd := d } (i.timeout.bind Seconds.micros?) i.argv .notFound
      (programPaths h i.program) with
  | error e => rfl
  | ok ended => rfl

/-- **A file that is started** is run as the process of the invocation, in its directory; what
    becomes of the run is the ending of that process. -/
theorem exists_process_of_startedFile? {binary : String} (hbinary : i.binary = some binary)
    (hstarted : i.startedFile? s h = some q) :
    ∃ d path ending files, h.files.enter h.cwd i.directory.text = .ok d
      ∧ h.files.placeOf? d path = some q
      ∧ s { h with cwd := d } (i.timeout.bind Seconds.micros?) path i.argv = .ok (ending, files)
      ∧ (i.run (execute s) h).1.fate = .started
        (if i.timeout.any Seconds.isTooLarge then .uncountable else Outcome.ofEnding ending) := by
  obtain ⟨hnul, d, path, hdirectory, hfound, hplace⟩ := exists_of_startedFile? hstarted
  have hrun : i.isLoaded s h d path = true := List.find?_some hfound
  -- the file found is the first of the paths that the system loads, so it is the one started
  have hstart : startFirst s { h with cwd := d } (i.timeout.bind Seconds.micros?) i.argv .notFound
      (programPaths h i.program)
      = s { h with cwd := d } (i.timeout.bind Seconds.micros?) path i.argv :=
    startFirst_of_find? .notFound hfound
  unfold isLoaded at hrun
  cases hprocess : s { h with cwd := d } (i.timeout.bind Seconds.micros?) path i.argv with
  | error e =>
    rw [hprocess] at hrun
    cases hrun
  | ok ended =>
    obtain ⟨ending, files⟩ := ended
    refine ⟨d, path, ending, files, hdirectory, hplace, hprocess, ?_⟩
    rw [run_of_binary (execute s) hbinary, execute_of_directory hnul hdirectory, hstart, hprocess]
    unfold outcomeOf
    dsimp only
    -- a limit too large to count is found only after the program was started
    cases i.timeout.any Seconds.isTooLarge with
    | true => rfl
    | false => rfl

/-- **The user is told that a tool is missing** just if no file is started for it. -/
theorem notice?_run_eq_none_iff (hloads : s.Loads reads) {binary : String}
    (hbinary : i.binary = some binary) (hnul : i.holdsNul = false)
    (hdirectory : h.files.enter h.cwd i.directory.text = .ok d) :
    (i.run (execute s) h).1.notice? = none ↔ ∃ q, i.startedFile? s h = some q := by
  constructor
  · intro hnotice
    cases hfound : (programPaths h i.program).find? (i.isLoaded s h d) with
    | some path =>
      obtain ⟨q, hq⟩ := exists_placeOf?_of_isLoaded hloads (List.find?_some hfound)
      refine ⟨q, ?_⟩
      rw [startedFile?_eq hnul hdirectory, hfound]
      exact hq
    | none =>
      -- the system refuses all paths, and a refusal is told
      obtain ⟨e, hstart⟩ : ∃ e, startFirst s { h with cwd := d }
          (i.timeout.bind Seconds.micros?) i.argv .notFound (programPaths h i.program)
            = .error e :=
        startFirst_of_find?_none .notFound hfound
      rw [run_of_binary (execute s) hbinary, execute_of_directory hnul hdirectory, hstart]
        at hnotice
      contradiction
  · rintro ⟨q, hstarted⟩
    obtain ⟨d, path, ending, files, -, -, -, hfate⟩ :=
      exists_process_of_startedFile? hbinary hstarted
    unfold ToolRun.notice?
    rw [hfate]
    cases i.timeout.any Seconds.isTooLarge with
    | true => rfl
    | false =>
      cases ending with
      | unfinished => rfl
      | finished _ _ _ _ => rfl

end Invocation

/-! ## Searches among folders at the root -/

theorem startsWith_append {s : String} (h : startsWith s "/" = true) (t : String) :
    startsWith (s ++ t) "/" = true := by
  obtain ⟨cs, hcs⟩ := startsWith_slash_iff.mp h
  refine startsWith_slash_iff.mpr ⟨cs ++ t.toList, ?_⟩
  rw [String.toList_append, hcs]
  rfl

theorem startsWith_text_of_isAbsolute {p : Path} (h : p.isAbsolute = true) :
    startsWith p.text "/" = true := by
  obtain ⟨root, parts⟩ := p
  cases root with
  | relative => contradiction
  | slash =>
    show startsWith ("/" ++ joinWith "/" parts) "/" = true
    exact startsWith_append rfl _
  | doubleSlash =>
    show startsWith ("//" ++ joinWith "/" parts) "/" = true
    exact startsWith_append rfl _

theorem startsWith_joinText {directory : String} (h : startsWith directory "/" = true)
    (file : String) : startsWith (joinText directory file) "/" = true := by
  unfold joinText
  split
  · assumption
  · split
    · exact startsWith_append h file
    · exact startsWith_append (startsWith_append h "/") file

theorem mem_of_mem_firsts {seen names : List String} {name : String}
    (h : name ∈ firsts seen names) : name ∈ names := by
  induction names generalizing seen with
  | nil => exact h
  | cons first rest ih =>
    unfold firsts at h
    split at h
    · exact List.mem_cons_of_mem first (ih h)
    · rcases List.mem_cons.mp h with rfl | hrest
      · exact List.mem_cons_self
      · exact List.mem_cons_of_mem first (ih hrest)

theorem startsWith_of_firstFile {h : Host} {paths : List Path} {p : String}
    (hpaths : ∀ path ∈ paths, path.isAbsolute = true) (hfound : firstFile h paths = .ok (some p)) :
    startsWith p "/" = true := by
  induction paths with
  | nil => cases Except.ok.inj hfound
  | cons path rest ih =>
    obtain ⟨hpath, hrest⟩ := List.forall_mem_cons.mp hpaths
    unfold firstFile at hfound
    split at hfound
    · contradiction
    · obtain rfl := Option.some.inj (Except.ok.inj hfound)
      exact startsWith_text_of_isAbsolute hpath
    · exact ih hrest hfound

/-- **A search among folders at the root**: the tool, if it is a path, all files that may be its
    binary and all directories of the search path start there. -/
structure IsRootedSearch (h : Host) (vs : Variables) (tool : String) : Prop where
  /-- The tool, if it is a path. -/
  itself : holds tool '/' = true → startsWith tool "/" = true
  /-- The files that may be its binary. -/
  candidates : ∀ path ∈ binaryCandidates vs tool, path.isAbsolute = true
  /-- The directories of the search path. -/
  directories : ∀ s ∈ splitAt ':' (searchPath h vs), startsWith s "/" = true

theorem startsWith_of_onSearchPath {h : Host} {path name p : String}
    (hname : holds name '/' = true → startsWith name "/" = true)
    (hpath : ∀ s ∈ splitAt ':' path, startsWith s "/" = true)
    (hfound : onSearchPath h path name = some p) : startsWith p "/" = true := by
  unfold onSearchPath at hfound
  split at hfound
  · next hslash =>
    split at hfound
    · obtain rfl := Option.some.inj hfound
      exact hname hslash
    · contradiction
  · split at hfound
    · contradiction
    · have hmem := List.mem_of_find?_eq_some hfound
      obtain ⟨directory, hdirectory, rfl⟩ := List.mem_map.mp hmem
      exact startsWith_joinText (hpath directory (mem_of_mem_firsts hdirectory)) name

/-- **What a search among folders at the root finds** starts there. -/
theorem IsRootedSearch.startsWith {h : Host} {vs : Variables} {tool p : String}
    (hrooted : IsRootedSearch h vs tool) (hlocated : locate h vs tool = .ok (some p)) :
    startsWith p "/" = true := by
  unfold locate at hlocated
  split at hlocated
  -- one case per way in which the lookup can answer: the name itself, a file in a bin directory,
  -- and the search path
  · contradiction
  · next hown =>
    obtain rfl := Option.some.inj (Except.ok.inj hlocated)
    apply hrooted.itself
    unfold isOwnFile at hown
    split at hown
    · cases Except.ok.inj hown
    · next hslash => simpa using hslash
  · split at hlocated
    · contradiction
    · next path hfile =>
      obtain rfl := Option.some.inj (Except.ok.inj hlocated)
      exact startsWith_of_firstFile hrooted.candidates hfile
    · exact startsWith_of_onSearchPath hrooted.itself hrooted.directories (Except.ok.inj hlocated)

/-! ## Binaries -/

/-- A path that leads somewhere is the program of an invocation. -/
theorem program_of_placeOf? {h : Host} {c : ToolCheck} {target : Path} {o : Options} {p : String}
    {q : Place} (hplace : h.files.placeOf? h.cwd p = some q) :
    (c.invocation h target o (some p)).program = p := by
  have hp : p ≠ "" := FileSystem.ne_empty_of_placeOf? hplace
  unfold Invocation.program ToolCheck.invocation
  dsimp only
  split
  · contradiction
  · next hempty => exact absurd (Option.some.inj hempty) hp
  · next binary hbinary => exact (Option.some.inj hbinary).symm

theorem programPaths_of_holds {p : String} (h : Host) (hp : holds p '/' = true) :
    programPaths h p = [p] := by
  unfold programPaths
  rw [if_pos hp]

theorem holds_of_startsWith {p : String} (h : startsWith p "/" = true) : holds p '/' = true := by
  obtain ⟨cs, hcs⟩ := startsWith_slash_iff.mp h
  unfold holds
  rw [hcs]
  rfl

/-- **The binary that is found and the file that is started**, on any system that runs files.  The
    binary of a check's tool leads, from the working directory, to a file that the system runs.
    Found among folders at the root, it starts there; and if it does, as do the paths on first
    lines behind it, that file is started and the user is told nothing.  Any binary that is a path
    is read from the directory of the target, which the process enters, and that file is started
    just if the binary leads to it from there and the system runs it.  The user is told that the
    tool is missing just if nothing is started. -/
theorem locate_starts {s : System} {reads : FileSystem → Place → String → List String}
    (hloads : s.Loads reads) (h : Host) (vs : Variables) (c : ToolCheck) (target : Path)
    (o : Options) {p : String} {d q : Place}
    (hlocated : locate h vs (c.tool o) = .ok (some p))
    (hplace : h.files.placeOf? h.cwd p = some q)
    (hrun : (c.invocation h target o (some p)).isLoaded s h h.cwd p = true)
    (hdirectory : h.files.enter h.cwd target.parent.text = .ok d)
    (hnul : (c.invocation h target o (some p)).holdsNul = false) :
    (IsRootedSearch h vs (c.tool o) → startsWith p "/" = true)
      ∧ ((∀ r ∈ reads h.files h.cwd p, startsWith r "/" = true) →
        (c.invocation h target o (some p)).startedFile? s h = some q
          ∧ ((c.invocation h target o (some p)).run (execute s) h).1.notice? = none)
      ∧ (holds p '/' = true →
        ((c.invocation h target o (some p)).startedFile? s h = some q
          ↔ (c.invocation h target o (some p)).isLoaded s h d p = true
            ∧ h.files.placeOf? d p = some q))
      ∧ (((c.invocation h target o (some p)).run (execute s) h).1.notice? = none
        ↔ ∃ q', (c.invocation h target o (some p)).startedFile? s h = some q') := by
  have hnotice := Invocation.notice?_run_eq_none_iff (h := h) (d := d)
    (i := c.invocation h target o (some p)) hloads rfl hnul hdirectory
  have hstarted : holds p '/' = true →
      ((c.invocation h target o (some p)).startedFile? s h = some q
        ↔ (c.invocation h target o (some p)).isLoaded s h d p = true
          ∧ h.files.placeOf? d p = some q) := by
    intro hp
    rw [Invocation.startedFile?_eq hnul hdirectory, program_of_placeOf? hplace,
      programPaths_of_holds h hp]
    cases hthere : (c.invocation h target o (some p)).isLoaded s h d p with
    | true =>
      rw [List.find?_cons_of_pos hthere]
      exact ⟨fun hq => ⟨rfl, hq⟩, fun hboth => hboth.2⟩
    | false =>
      rw [List.find?_cons_of_neg (Bool.eq_false_iff.mp hthere)]
      constructor
      · intro hq
        cases hq
      · rintro ⟨hfalse, -⟩
        exact absurd hfalse Bool.false_ne_true
  refine ⟨fun hrooted => hrooted.startsWith hlocated, ?_, hstarted, hnotice⟩
  intro hpaths
  have hp : startsWith p "/" = true := hpaths p (hloads.mem_reads h.files h.cwd p)
  -- from the root the binary is read alike in both directories
  have hthere : (c.invocation h target o (some p)).isLoaded s h d p = true :=
    (Invocation.isLoaded_of_rooted hloads hpaths d).trans hrun
  have hsame : h.files.placeOf? d p = some q :=
    (FileSystem.placeOf?_of_rooted hp d h.cwd).trans hplace
  have hq := (hstarted (holds_of_startsWith hp)).mpr ⟨hthere, hsame⟩
  exact ⟨hq, hnotice.mpr ⟨q, hq⟩⟩

/-- A host with a linter in a folder and a file to check in another one; the search path is
    given. -/
def linterHost (searchPath : String) : Host where
  files := { entries := [
    (["tools"], .directory 0o755),
    (["tools", "golint"], .program "true"),
    (["sub"], .directory 0o755),
    (["sub", "a.go"], .file [] 0o644)] }
  cwd := []
  environment := [("PATH", searchPath)]

/-- The file to check. -/
def lintedFile : Path := ⟨.slash, ["sub", "a.go"]⟩

/-- What is to be run to lint it. -/
def lintInvocation (searchPath binary : String) : Invocation :=
  ToolCheck.lint.invocation (linterHost searchPath) lintedFile Options.default (some binary)

theorem isRootedSearch_tools :
    IsRootedSearch (linterHost "/tools") [] (ToolCheck.lint.tool Options.default) where
  itself := by decide
  candidates := by decide +kernel
  directories := by decide +kernel

theorem Invocation.isLoaded_runProcess (h : Host) (i : Invocation) (cwd : Place) (path : String) :
    i.isLoaded Shell.runProcess h cwd path = Shell.canRun h.files cwd path := by
  unfold isLoaded
  rw [Shell.isOk_runProcess]

theorem locate_starts_tools :
    locate (linterHost "/tools") [] (ToolCheck.lint.tool Options.default)
        = .ok (some "/tools/golint")
      ∧ (linterHost "/tools").files.placeOf? [] "/tools/golint" = some ["tools", "golint"]
      ∧ (lintInvocation "/tools" "/tools/golint").isLoaded Shell.runProcess (linterHost "/tools") []
        "/tools/golint" = true
      ∧ (linterHost "/tools").files.enter [] lintedFile.parent.text = .ok ["sub"]
      ∧ (lintInvocation "/tools" "/tools/golint").holdsNul = false
      ∧ startsWith "/tools/golint" "/" = true
      ∧ (lintInvocation "/tools" "/tools/golint").startedFile? Shell.runProcess
        (linterHost "/tools") = some ["tools", "golint"]
      ∧ ((lintInvocation "/tools" "/tools/golint").run (execute Shell.runProcess)
        (linterHost "/tools")).1.notice? = none := by
  have hlocated : locate (linterHost "/tools") [] (ToolCheck.lint.tool Options.default)
      = .ok (some "/tools/golint") := eq_ok_of_toOption (by decide +kernel)
  have hplace : (linterHost "/tools").files.placeOf? [] "/tools/golint"
      = some ["tools", "golint"] := by decide +kernel
  have hrun : (lintInvocation "/tools" "/tools/golint").isLoaded Shell.runProcess
      (linterHost "/tools") [] "/tools/golint" = true := by
    rw [Invocation.isLoaded_runProcess]
    decide +kernel
  have hdirectory : (linterHost "/tools").files.enter [] lintedFile.parent.text = .ok ["sub"] :=
    rfl
  have hnul : (lintInvocation "/tools" "/tools/golint").holdsNul = false := by decide +kernel
  have hpaths : ∀ r ∈ Shell.pathsRead (linterHost "/tools").files [] Shell.headDepth
      (Shell.ofText "/tools/golint"), startsWith r "/" = true := by decide +kernel
  obtain ⟨hrooted, hstarted, -, -⟩ := locate_starts Shell.loads_runProcess (linterHost "/tools") []
    .lint lintedFile Options.default hlocated hplace hrun hdirectory hnul
  exact ⟨hlocated, hplace, hrun, hdirectory, hnul, hrooted isRootedSearch_tools, hstarted hpaths⟩

/-- **A binary that is found and not started**: the search path is relative, and the folder of the
    file does not hold it. -/
theorem not_starts_relative :
    locate (linterHost "tools") [] (ToolCheck.lint.tool Options.default)
        = .ok (some "tools/golint")
      ∧ (linterHost "tools").files.placeOf? [] "tools/golint" = some ["tools", "golint"]
      ∧ (lintInvocation "tools" "tools/golint").isLoaded Shell.runProcess (linterHost "tools") []
        "tools/golint" = true
      ∧ (linterHost "tools").files.enter [] lintedFile.parent.text = .ok ["sub"]
      ∧ (lintInvocation "tools" "tools/golint").startedFile? Shell.runProcess (linterHost "tools")
        = none
      ∧ ((lintInvocation "tools" "tools/golint").run (execute Shell.runProcess)
        (linterHost "tools")).1.notice?
        = some "The 'golint' command is not available.  Please install it." := by
  refine ⟨eq_ok_of_toOption (by decide +kernel), by decide +kernel, ?_, rfl, by decide +kernel,
    by decide +kernel⟩
  rw [Invocation.isLoaded_runProcess]
  decide +kernel

end SourceCheck
