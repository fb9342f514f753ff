import SourceCheck.Proofs.Host.Walks
import SourceCheck.Proofs.Results
import SourceCheck.Tool.Locate

/-! # The order of lookups

    The binary of a tool is looked for at one file after the other: at the tool itself if it is a
    path, in the folder `bin` of some directories, and on the search path (`lookups`).  The first
    file that is found is the binary, and there is none just if no look finds a file; but if the
    system refuses a look before that, because a name is too long or some directory may not be
    entered, the search ends there (`locate_firstFound`).

    The directories are those in `GOPATH`, or for `go` the one in `GOROOT`.  So `GOPATH` does not
    matter to `go`, nor `GOROOT` to any other tool, nor does it matter what stands in `GOPATH`
    behind a directory with the binary, nor an empty entry anywhere.

    A first entry of `GOPATH` with too long a name has every search but that for `go` refused
    (`locate_of_longName`), whatever stands behind it.  On the search path such a name is passed
    over. -/

namespace SourceCheck

open SourceCheck.Text

/-! ## Refusals -/

namespace FileSystem

variable {fs : FileSystem}

/-- Some directory may not be entered. -/
def HasClosed (fs : FileSystem) : Prop :=
  ∃ place mode, fs.entry? place = some (.directory mode)
    ∧ fs.allows .enter (.directory mode) = false

/-- A look is refused for a name that is too long, or by a directory that may not be entered. -/
def IsRefusal (fs : FileSystem) (e : SystemError) : Prop :=
  e = .nameTooLong ∨ e = .notPermitted ∧ fs.HasClosed

/-- A walk ends early where nothing is, or it is refused. -/
def IsWalkError (fs : FileSystem) (e : SystemError) : Prop :=
  Host.isAbsence e = true ∨ fs.IsRefusal e

theorem isWalkError_of_advance {follow : Bool}
    {onLink : Place → List String → Except SystemError Found}
    (hlink : ∀ place names e, onLink place names = .error e → fs.IsWalkError e)
    {place : Place} {names : List String} {e : SystemError}
    (h : advance fs follow onLink place names = .error e) : fs.IsWalkError e := by
  -- by the names: a step fails for one of the causes, goes on, or leaves the rest to a link
  induction names generalizing place with
  | nil => cases h
  | cons step rest ih =>
    unfold advance at h
    split at h
    · rw [← Except.error.inj h]
      exact .inl rfl
    · next mode hplace =>
      split at h
      · next hclosed =>
        rw [← Except.error.inj h]
        exact .inr (.inr ⟨rfl, place, mode, hplace, hclosed.2⟩)
      split at h
      · exact ih h
      split at h
      · exact ih h
      split at h
      · rw [← Except.error.inj h]
        exact .inr (.inl rfl)
      dsimp only at h
      split at h
      · split at h
        · cases h
        · exact hlink _ _ _ h
      · exact ih h
    · rw [← Except.error.inj h]
      exact .inl rfl

theorem isWalkError_of_walk {follow : Bool} {links : Nat} {place : Place} {names : List String}
    {e : SystemError} (h : fs.walk follow links place names = .error e) : fs.IsWalkError e := by
  induction links generalizing place names e with
  | zero =>
    refine isWalkError_of_advance ?_ h
    intro _ _ e' hloop
    rw [← Except.error.inj hloop]
    exact .inl rfl
  | succ links ih => exact isWalkError_of_advance (fun _ _ _ hwalk => ih hwalk) h

theorem isWalkError_of_stat {cwd : Place} {s : String} {e : SystemError}
    (h : fs.stat cwd s = .error e) : fs.IsWalkError e := by
  unfold stat at h
  split at h
  · next hfind =>
    obtain rfl := Except.error.inj h
    unfold find at hfind
    -- no path at all, a path that is too long, or a walk that fails on its way
    split at hfind
    · rw [← Except.error.inj hfind]
      exact .inl rfl
    · split at hfind
      · rw [← Except.error.inj hfind]
        exact .inr (.inl rfl)
      · exact isWalkError_of_walk hfind
  · cases h
  · rw [← Except.error.inj h]
    exact .inl rfl

/-- A path from the root is refused if the first of its names is too long and is looked up. -/
theorem stat_of_longName {name : String} {rest : List String} (hroot : fs.Admits [] name)
    (hnames : ∀ n ∈ name :: rest, IsName n) (hlong : nameLimit < octets name) (cwd : Place) :
    fs.stat cwd (⟨.slash, name :: rest⟩ : Path).text = .error .nameTooLong := by
  have hname : IsName name := hnames name List.mem_cons_self
  have hne : name ≠ ".." := by
    rintro rfl
    exact absurd hlong (by decide)
  -- the long name is none of the steps that need no directory entry
  have hstay : ¬(name = "" ∨ name = ".") := not_or.mpr ⟨hname.ne_empty, hname.ne_dot⟩
  obtain ⟨empties, hempties, hcut⟩ := Path.exists_splitAt_text (p := ⟨.slash, name :: rest⟩) rfl
    (List.cons_ne_nil _ _) fun n hn => (hnames n hn).noSlash
  -- the walk ends at the first name, before anything behind it is looked at
  have hwalk : fs.walk true linkLimit [] (empties ++ name :: rest) = .error .nameTooLong := by
    unfold linkLimit
    rw [walk, advance_empties _ _ hempties, advance_of_admits hroot, if_neg hstay, if_neg hne,
      if_pos hlong]
  unfold stat
  rw [find_of_absolute rfl, show steps (⟨.slash, name :: rest⟩ : Path).text = _ from hcut, hwalk,
    ite_self]

end FileSystem

/-- **The system refuses to look at a file** only if a name in its path is too long, or if some
    directory may not be entered. -/
theorem isRefusal_of_isFile {h : Host} {s : String} {e : SystemError}
    (hfile : h.isFile s = .error e) : h.files.IsRefusal e := by
  unfold Host.isFile Host.ask at hfile
  split at hfile
  · cases hfile
  · split at hfile
    · cases hfile
    · next hstat =>
      split at hfile
      · cases hfile
      · next habsent =>
        obtain rfl := Except.error.inj hfile
        exact (FileSystem.isWalkError_of_stat hstat).resolve_left habsent

/-! ## Looks -/

/-- A look at a file that may be a regular one. -/
def lookAt (h : Host) (s : String) : Except LookupFailure Bool := (h.isFile s).mapError (⟨·, s⟩)

theorem lookAt_of_ok {h : Host} {s : String} {found : Bool} (hfile : h.isFile s = .ok found) :
    lookAt h s = .ok found := by
  unfold lookAt
  rw [hfile]
  rfl

theorem lookAt_of_error {h : Host} {s : String} {e : SystemError} (hfile : h.isFile s = .error e) :
    lookAt h s = .error ⟨e, s⟩ := by
  unfold lookAt
  rw [hfile]
  rfl

/-- **One look** for the binary of a tool. -/
inductive Lookup where
  /-- At the path that the tool itself is. -/
  | itself
  /-- In the folder `bin` of a directory. -/
  | inBin (directory : String)
  /-- In a directory of the search path. -/
  | onPath (directory : String)
  /-- At the path that the tool itself is, once more, for a program. -/
  | program
  deriving DecidableEq, Repr

namespace Lookup

/-- The binary of a tool if a look finds it. -/
def binary (tool : String) : Lookup → String
  | .itself | .program => tool
  | .inBin directory => (binaryIn directory tool).text
  | .onPath directory => joinText directory tool

/-- Whether a look finds a file.  On the search path it must be a program, elsewhere any regular
    file will do. -/
def finds (h : Host) (tool : String) : Lookup → Except LookupFailure Bool
  | .itself => lookAt h (Path.ofText tool).text
  | .inBin directory => lookAt h (binaryIn directory tool).text
  | .onPath directory => .ok (isRunnable h (joinText directory tool))
  | .program => .ok (isRunnable h tool)

@[simp] theorem finds_itself (h : Host) (tool : String) :
    itself.finds h tool = lookAt h (Path.ofText tool).text := rfl

@[simp] theorem finds_inBin (h : Host) (tool directory : String) :
    (inBin directory).finds h tool = lookAt h (binaryIn directory tool).text := rfl

@[simp] theorem finds_onPath (h : Host) (tool directory : String) :
    (onPath directory).finds h tool = .ok (isRunnable h (joinText directory tool)) := rfl

@[simp] theorem finds_program (h : Host) (tool : String) :
    program.finds h tool = .ok (isRunnable h tool) := rfl

end Lookup

/-- The entries of `GOPATH`. -/
def goPathEntries (vs : Variables) : List String := splitAt ':' (vs.value "GOPATH")

/-- The directories whose folder `bin` may hold the binary of a tool. -/
def binDirectories (vs : Variables) (tool : String) : List String :=
  if tool = goTool then (goRoot vs).toList else (goPathEntries vs).filter (· ≠ "")

/-- The directories of a search path; an empty one has none. -/
def searchDirectories (path : String) : List String :=
  if path.isEmpty then [] else splitAt ':' path

/-- **The looks for the binary of a tool**, in their order. -/
def lookups (h : Host) (vs : Variables) (tool : String) : List Lookup :=
  (if holds tool '/' then [.itself] else [])
    ++ ((binDirectories vs tool).map .inBin
      ++ if holds tool '/' then [.program] else (searchDirectories (searchPath h vs)).map .onPath)

/-- **A search comes to a look**: no look before it finds a file. -/
def ComesTo (h : Host) (tool : String) (ls : List Lookup) (l : Lookup) : Prop :=
  ∃ before after, ls = before ++ l :: after ∧ ∀ m ∈ before, m.finds h tool = .ok false

/-! ## Searches -/

/-- What is found by the first look that finds a file. -/
def firstFound (h : Host) (tool : String) : List Lookup → Except LookupFailure (Option String)
  | [] => .ok none
  | l :: rest =>
    match l.finds h tool with
    | .error f => .error f
    | .ok true => .ok (some (l.binary tool))
    | .ok false => firstFound h tool rest

variable {h : Host} {vs vs' : Variables} {tool : String} {l : Lookup} {ls : List Lookup}

theorem firstFound_cons_of_true (hl : l.finds h tool = .ok true) (ls : List Lookup) :
    firstFound h tool (l :: ls) = .ok (some (l.binary tool)) := by
  unfold firstFound
  rw [hl]

theorem firstFound_cons_of_false (hl : l.finds h tool = .ok false) (ls : List Lookup) :
    firstFound h tool (l :: ls) = firstFound h tool ls := by
  rw [firstFound, hl]

theorem firstFound_cons_of_error {f : LookupFailure} (hl : l.finds h tool = .error f)
    (ls : List Lookup) : firstFound h tool (l :: ls) = .error f := by
  unfold firstFound
  rw [hl]

theorem comesTo_cons_iff {first : Lookup} :
    ComesTo h tool (first :: ls) l
      ↔ l = first ∨ first.finds h tool = .ok false ∧ ComesTo h tool ls l := by
  constructor
  · rintro ⟨before, after, hls, hbefore⟩
    cases before with
    | nil => exact .inl (List.cons.inj hls).1.symm
    | cons m before =>
      obtain ⟨rfl, hrest⟩ := List.cons.inj hls
      obtain ⟨hm, hbefore⟩ := List.forall_mem_cons.mp hbefore
      exact .inr ⟨hm, before, after, hrest, hbefore⟩
  · rintro (rfl | ⟨hfirst, before, after, rfl, hbefore⟩)
    · exact ⟨[], ls, rfl, List.forall_mem_nil _⟩
    · exact ⟨first :: before, after, rfl, List.forall_mem_cons.mpr ⟨hfirst, hbefore⟩⟩

theorem not_comesTo_nil : ¬ComesTo h tool [] l := by
  rintro ⟨before, after, hnil, -⟩
  cases before with
  | nil => contradiction
  | cons m before => contradiction

theorem firstFound_singleton_eq_some_iff {p : String} :
    firstFound h tool [l] = .ok (some p) ↔ l.finds h tool = .ok true ∧ l.binary tool = p := by
  unfold firstFound
  cases l.finds h tool with
  | error f => simp
  | ok found => cases found <;> simp [firstFound]

theorem firstFound_singleton_eq_error_iff {f : LookupFailure} :
    firstFound h tool [l] = .error f ↔ l.finds h tool = .error f := by
  unfold firstFound
  cases l.finds h tool with
  | error f' => simp
  | ok found => cases found <;> simp [firstFound]

/-- **A search says more than that there is nothing** just if it comes to a look that says so. -/
theorem firstFound_eq_iff {answer : Except LookupFailure (Option String)}
    (hanswer : answer ≠ .ok none) :
    firstFound h tool ls = answer
      ↔ ∃ l, ComesTo h tool ls l ∧ firstFound h tool [l] = answer := by
  induction ls with
  | nil => simp [firstFound, hanswer.symm, not_comesTo_nil]
  | cons first rest ih =>
    simp only [comesTo_cons_iff]
    cases hfirst : first.finds h tool with
    | error f =>
      rw [firstFound_cons_of_error hfirst]
      simp [firstFound_cons_of_error hfirst]
    | ok found =>
      cases found with
      | true =>
        rw [firstFound_cons_of_true hfirst]
        simp [firstFound_cons_of_true hfirst]
      | false =>
        rw [firstFound_cons_of_false hfirst, ih]
        -- on its own the first look says that there is nothing, and that is not the answer
        have hnothing : firstFound h tool [first] ≠ answer := by
          rw [firstFound_cons_of_false hfirst]
          exact hanswer.symm
        simp [hnothing, or_and_right, exists_or]

theorem firstFound_eq_none_iff :
    firstFound h tool ls = .ok none ↔ ∀ l ∈ ls, l.finds h tool = .ok false := by
  induction ls with
  | nil => simp [firstFound]
  | cons first rest ih =>
    rw [List.forall_mem_cons]
    cases hfirst : first.finds h tool with
    | error f => simp [firstFound_cons_of_error hfirst]
    | ok found =>
      cases found with
      | true => simp [firstFound_cons_of_true hfirst]
      | false => simp [firstFound_cons_of_false hfirst, ih]

theorem firstFound_append (ls ms : List Lookup) :
    firstFound h tool (ls ++ ms) =
      match firstFound h tool ls with
      | .ok none => firstFound h tool ms
      | answer => answer := by
  induction ls with
  | nil => rfl
  | cons first rest ih =>
    rw [List.cons_append]
    cases hfirst : first.finds h tool with
    | error f => rw [firstFound_cons_of_error hfirst, firstFound_cons_of_error hfirst]
    | ok found =>
      cases found with
      | true => rw [firstFound_cons_of_true hfirst, firstFound_cons_of_true hfirst]
      | false => rw [firstFound_cons_of_false hfirst, firstFound_cons_of_false hfirst, ih]

/-- What stands behind a look that finds a file does not matter. -/
theorem firstFound_append_cons_of_true (hl : l.finds h tool = .ok true)
    (before after after' : List Lookup) :
    firstFound h tool (before ++ l :: after) = firstFound h tool (before ++ l :: after') := by
  rw [firstFound_append, firstFound_append, firstFound_cons_of_true hl, firstFound_cons_of_true hl]

/-! ## The search for a binary -/

theorem firstFound_itself (h : Host) (tool : String) :
    firstFound h tool (if holds tool '/' then [.itself] else []) =
      match isOwnFile h tool with
      | .error f => .error f
      | .ok true => .ok (some tool)
      | .ok false => .ok none := by
  unfold isOwnFile
  cases holds tool '/' with
  | false => rfl
  | true =>
    cases hfile : h.isFile (Path.ofText tool).text with
    | error e => simp [firstFound, lookAt_of_error hfile]
    | ok found => cases found <;> simp [firstFound, lookAt_of_ok hfile, Lookup.binary]

theorem firstFound_inBin (h : Host) (tool : String) (directories : List String) :
    firstFound h tool (directories.map .inBin)
      = firstFile h (directories.map (binaryIn · tool)) := by
  induction directories with
  | nil => rfl
  | cons directory rest ih =>
    rw [List.map_cons, List.map_cons, firstFound, firstFile, Lookup.finds_inBin, ih]
    cases hfile : h.isFile (binaryIn directory tool).text with
    | error e => rw [lookAt_of_error hfile]
    | ok found =>
      rw [lookAt_of_ok hfile]
      cases found <;> rfl

theorem firstFound_onPath (h : Host) (tool : String) (directories : List String) :
    firstFound h tool (directories.map .onPath)
      = .ok ((directories.map (joinText · tool)).find? (isRunnable h)) := by
  induction directories with
  | nil => rfl
  | cons directory rest ih =>
    rw [List.map_cons, List.map_cons, firstFound, Lookup.finds_onPath, ih]
    cases hrun : isRunnable h (joinText directory tool) with
    | true => rw [List.find?_cons_of_pos hrun]; rfl
    | false => rw [List.find?_cons_of_neg (Bool.eq_false_iff.mp hrun)]

/-- A text that comes again is not found where it was not found before. -/
theorem find?_map_firsts {f : String → String} {p : String → Bool} {seen : List String}
    (hseen : ∀ a ∈ seen, p (f a) = false) (names : List String) :
    ((firsts seen names).map f).find? p = (names.map f).find? p := by
  -- all texts seen so far are such that nothing was found for them
  induction names generalizing seen with
  | nil => rfl
  | cons name rest ih =>
    unfold firsts
    rw [List.map_cons]
    split
    · next hagain =>
      have hname : p (f name) = false := hseen name (by simpa using hagain)
      rw [ih hseen, List.find?_cons_of_neg (Bool.eq_false_iff.mp hname)]
    · rw [List.map_cons]
      cases hname : p (f name) with
      | true => rw [List.find?_cons_of_pos hname, List.find?_cons_of_pos hname]
      | false =>
        rw [List.find?_cons_of_neg (Bool.eq_false_iff.mp hname),
          List.find?_cons_of_neg (Bool.eq_false_iff.mp hname)]
        exact ih (List.forall_mem_cons.mpr ⟨hname, hseen⟩)

/-- The looks behind those in the folders `bin` are those of the search path. -/
theorem firstFound_onSearchPath (h : Host) (tool path : String) :
    firstFound h tool
        (if holds tool '/' then [.program] else (searchDirectories path).map .onPath)
      = .ok (onSearchPath h path tool) := by
  unfold onSearchPath searchDirectories
  cases holds tool '/' with
  | true =>
    cases hrun : isRunnable h tool <;> simp [firstFound, hrun, Lookup.binary]
  | false =>
    cases path.isEmpty with
    | true => rfl
    | false =>
      simp only [Bool.false_eq_true, if_false]
      rw [firstFound_onPath, find?_map_firsts (List.forall_mem_nil _)]

theorem binaryCandidates_eq (vs : Variables) (tool : String) :
    binaryCandidates vs tool = (binDirectories vs tool).map (binaryIn · tool) := by
  unfold binaryCandidates binDirectories goPathEntries
  split
  · next hgo =>
    rw [hgo]
    cases goRoot vs <;> rfl
  · rfl

/-- **The search for a binary** is that of the looks for it. -/
theorem locate_eq (h : Host) (vs : Variables) (tool : String) :
    locate h vs tool = firstFound h tool (lookups h vs tool) := by
  unfold locate lookups
  -- each part of the looks answers as one stage of the search does
  rw [firstFound_append, firstFound_append, firstFound_itself, firstFound_inBin,
    firstFound_onSearchPath, binaryCandidates_eq]
  cases isOwnFile h tool with
  | error f => rfl
  | ok found =>
    cases found with
    | true => rfl
    | false =>
      cases firstFile h ((binDirectories vs tool).map (binaryIn · tool)) with
      | error f => rfl
      | ok path => cases path <;> rfl

/-! ## What a search goes by -/

/-- Two environments differ in one variable at most. -/
def Variables.AgreeBut (name : String) (vs vs' : Variables) : Prop :=
  ∀ other, other ≠ name → vs'.get? other = vs.get? other

theorem Variables.agreeBut_replace (name v v' : String) (before after : Variables) :
    AgreeBut name (before ++ (name, v) :: after) (before ++ (name, v') :: after) := by
  intro other hother
  have hne : (other == name) = false := by simpa using hother
  unfold get?
  rw [List.lookup_append, List.lookup_append, List.lookup_cons, List.lookup_cons, hne]

theorem binDirectories_of_goTool (hgo : tool = goTool) :
    binDirectories vs tool = (goRoot vs).toList := if_pos hgo

theorem binDirectories_of_ne_goTool (hother : tool ≠ goTool) :
    binDirectories vs tool = (goPathEntries vs).filter (· ≠ "") := if_neg hother

/-- A search goes by the directories whose folder `bin` is looked at, and by the search path. -/
theorem locate_congr (hpath : vs'.get? "PATH" = vs.get? "PATH")
    (hdirectories : binDirectories vs' tool = binDirectories vs tool) :
    locate h vs' tool = locate h vs tool := by
  have hlookups : lookups h vs' tool = lookups h vs tool := by
    unfold lookups searchPath
    rw [hdirectories, hpath]
  rw [locate_eq, locate_eq, hlookups]

/-- `go` is not looked for in `GOPATH`. -/
theorem locate_of_agreeBut_goPath (hgo : tool = goTool) (hvs : vs.AgreeBut "GOPATH" vs') :
    locate h vs' tool = locate h vs tool := by
  have hroot : goRoot vs' = goRoot vs := by
    unfold goRoot Variables.nonEmpty?
    rw [hvs "GOROOT" (by decide)]
  refine locate_congr (hvs "PATH" (by decide)) ?_
  rw [binDirectories_of_goTool hgo, binDirectories_of_goTool hgo, hroot]

/-- No other tool is looked for in `GOROOT`. -/
theorem locate_of_agreeBut_goRoot (hother : tool ≠ goTool) (hvs : vs.AgreeBut "GOROOT" vs') :
    locate h vs' tool = locate h vs tool := by
  have hentries : goPathEntries vs' = goPathEntries vs := by
    unfold goPathEntries Variables.value
    rw [hvs "GOPATH" (by decide)]
  refine locate_congr (hvs "PATH" (by decide)) ?_
  rw [binDirectories_of_ne_goTool hother, binDirectories_of_ne_goTool hother, hentries]

/-- Empty entries of `GOPATH` do not matter. -/
theorem locate_of_filter_goPathEntries (hvs : vs.AgreeBut "GOPATH" vs')
    (hentries : (goPathEntries vs').filter (· ≠ "") = (goPathEntries vs).filter (· ≠ "")) :
    locate h vs' tool = locate h vs tool := by
  by_cases hgo : tool = goTool
  · exact locate_of_agreeBut_goPath hgo hvs
  · refine locate_congr (hvs "PATH" (by decide)) ?_
    rw [binDirectories_of_ne_goTool hgo, binDirectories_of_ne_goTool hgo, hentries]

/-- Up to an entry of `GOPATH` the looks go by the entries before it. -/
theorem lookups_of_goPathEntries {directory : String} {before after : List String}
    (hother : tool ≠ goTool) (hdirectory : directory ≠ "")
    (hentries : goPathEntries vs = before ++ directory :: after) :
    ∃ behind, lookups h vs tool
      = ((if holds tool '/' then [.itself] else []) ++ (before.filter (· ≠ "")).map .inBin)
        ++ .inBin directory :: behind := by
  unfold lookups
  rw [binDirectories_of_ne_goTool hother, hentries, List.filter_append,
    List.filter_cons_of_pos (by simpa using hdirectory), List.map_append, List.map_cons]
  simp only [List.append_assoc, List.cons_append]
  exact ⟨_, rfl⟩

/-- What stands in `GOPATH` behind a directory with the binary does not matter. -/
theorem locate_of_goPathEntries {directory : String} {before after after' : List String}
    (hvs : vs.AgreeBut "GOPATH" vs') (hentries : goPathEntries vs = before ++ directory :: after)
    (hentries' : goPathEntries vs' = before ++ directory :: after') (hdirectory : directory ≠ "")
    (hfinds : (Lookup.inBin directory).finds h tool = .ok true) :
    locate h vs' tool = locate h vs tool := by
  by_cases hgo : tool = goTool
  · exact locate_of_agreeBut_goPath hgo hvs
  · obtain ⟨behind, hls⟩ := lookups_of_goPathEntries (h := h) hgo hdirectory hentries
    obtain ⟨behind', hls'⟩ := lookups_of_goPathEntries (h := h) hgo hdirectory hentries'
    rw [locate_eq, locate_eq, hls, hls']
    exact firstFound_append_cons_of_true hfinds _ _ _

/-! ## The order of lookups -/

theorem isRefusal_of_lookAt {s : String} {f : LookupFailure} (hrefused : lookAt h s = .error f) :
    h.files.IsRefusal f.cause := by
  cases hfile : h.isFile s with
  | ok found =>
    rw [lookAt_of_ok hfile] at hrefused
    cases hrefused
  | error e =>
    rw [lookAt_of_error hfile] at hrefused
    obtain rfl := Except.error.inj hrefused
    exact isRefusal_of_isFile hfile

theorem isRefusal_of_finds {f : LookupFailure} (hrefused : l.finds h tool = .error f) :
    h.files.IsRefusal f.cause := by
  cases l with
  | itself => exact isRefusal_of_lookAt hrefused
  | inBin directory => exact isRefusal_of_lookAt hrefused
  | onPath directory => cases hrefused
  | program => cases hrefused

/-- **The answer of a search** by some looks. -/
structure AnswersBy (h : Host) (tool : String) (ls : List Lookup)
    (answer : Except LookupFailure (Option String)) : Prop where
  /-- A file is found just if the search comes to a look that finds it. -/
  found : ∀ p, answer = .ok (some p)
    ↔ ∃ l, ComesTo h tool ls l ∧ l.finds h tool = .ok true ∧ l.binary tool = p
  /-- Nothing is found just if no look finds a file. -/
  missing : answer = .ok none ↔ ∀ l ∈ ls, l.finds h tool = .ok false
  /-- The search is refused just if it comes to a look that the system refuses. -/
  refused : ∀ f, answer = .error f ↔ ∃ l, ComesTo h tool ls l ∧ l.finds h tool = .error f

theorem answersBy_firstFound (h : Host) (tool : String) (ls : List Lookup) :
    AnswersBy h tool ls (firstFound h tool ls) where
  found := by
    intro p
    rw [firstFound_eq_iff (by simp)]
    simp only [firstFound_singleton_eq_some_iff]
  missing := firstFound_eq_none_iff
  refused := by
    intro f
    rw [firstFound_eq_iff (by simp)]
    simp only [firstFound_singleton_eq_error_iff]

/-- **The order of lookups.**  The binary of a tool is the first file that the looks for it find,
    and there is none just if no look finds one; only if the system refuses a look before that,
    because a name is too long or a directory may not be entered, the search is refused.  For `go`
    it does not matter what `GOPATH` is, for any other tool what `GOROOT` is, and for no tool what
    `GOPATH` holds behind a directory with the binary, nor how many empty entries it holds. -/
theorem locate_firstFound (h : Host) (vs vs' : Variables) (tool : String) :
    AnswersBy h tool (lookups h vs tool) (locate h vs tool)
      ∧ (∀ l f, Lookup.finds h tool l = .error f → h.files.IsRefusal f.cause)
      ∧ (tool = goTool → vs.AgreeBut "GOPATH" vs' → locate h vs' tool = locate h vs tool)
      ∧ (tool ≠ goTool → vs.AgreeBut "GOROOT" vs' → locate h vs' tool = locate h vs tool)
      ∧ (∀ before directory after after', vs.AgreeBut "GOPATH" vs' →
        goPathEntries vs = before ++ directory :: after →
        goPathEntries vs' = before ++ directory :: after' → directory ≠ "" →
        (Lookup.inBin directory).finds h tool = .ok true → locate h vs' tool = locate h vs tool)
      ∧ (vs.AgreeBut "GOPATH" vs' →
        (goPathEntries vs').filter (· ≠ "") = (goPathEntries vs).filter (· ≠ "") →
        locate h vs' tool = locate h vs tool) := by
  refine ⟨?_, fun l f => isRefusal_of_finds, locate_of_agreeBut_goPath,
    locate_of_agreeBut_goRoot, ?_, locate_of_filter_goPathEntries⟩
  · rw [locate_eq]
    exact answersBy_firstFound h tool (lookups h vs tool)
  · intro before directory after after' hvs hentries hentries' hdirectory hfinds
    exact locate_of_goPathEntries hvs hentries hentries' hdirectory hfinds

/-- A host with `go` and with two linters of one name, none of which can be run. -/
def toolHost : Host where
  files := { entries := [
    (["go"], .directory 0o755),
    (["go", "bin"], .directory 0o755),
    (["go", "bin", "go"], .program "true"),
    (["two"], .directory 0o755),
    (["two", "bin"], .directory 0o755),
    (["two", "bin", "golint"], .file [] 0o644),
    (["three"], .directory 0o755),
    (["three", "bin"], .directory 0o755),
    (["three", "bin", "golint"], .file [] 0o644)] }
  cwd := []
  environment := []

/-- An environment with a search path, by its `GOPATH` and `GOROOT`. -/
def toolVariables (goPath root : String) : Variables :=
  [("GOPATH", goPath), ("GOROOT", root), ("PATH", "")]

theorem locate_firstFound_tools :
    locate toolHost (toolVariables "/one:/two" "/go") "golint" = .ok (some "/two/bin/golint")
      ∧ (∀ v, locate toolHost (toolVariables v "/go") "go"
        = locate toolHost (toolVariables "/one:/two" "/go") "go")
      ∧ (∀ v, locate toolHost (toolVariables "/one:/two" v) "golint"
        = locate toolHost (toolVariables "/one:/two" "/go") "golint")
      ∧ locate toolHost (toolVariables "/one:/two:/three" "/go") "golint"
        = locate toolHost (toolVariables "/one:/two" "/go") "golint"
      ∧ locate toolHost (toolVariables ":/one::/two:" "/go") "golint"
        = locate toolHost (toolVariables "/one:/two" "/go") "golint" := by
  have hone : (Lookup.inBin "/one").finds toolHost "golint" = .ok false :=
    eq_ok_of_toOption (by decide +kernel)
  have htwo : (Lookup.inBin "/two").finds toolHost "golint" = .ok true :=
    eq_ok_of_toOption (by decide +kernel)
  have hcomes : ComesTo toolHost "golint"
      (lookups toolHost (toolVariables "/one:/two" "/go") "golint") (.inBin "/two") :=
    ⟨[.inBin "/one"], [], by decide +kernel, by simpa using hone⟩
  refine ⟨?_, ?_, ?_, ?_, ?_⟩
  · obtain ⟨hanswer, -⟩ := locate_firstFound toolHost (toolVariables "/one:/two" "/go") [] "golint"
    exact (hanswer.found _).mpr ⟨.inBin "/two", hcomes, htwo, by decide +kernel⟩
  · intro v
    obtain ⟨-, -, hgo, -⟩ := locate_firstFound toolHost (toolVariables "/one:/two" "/go")
      (toolVariables v "/go") "go"
    exact hgo rfl (Variables.agreeBut_replace _ _ _ [] _)
  · intro v
    obtain ⟨-, -, -, hroot, -⟩ := locate_firstFound toolHost (toolVariables "/one:/two" "/go")
      (toolVariables "/one:/two" v) "golint"
    exact hroot (by decide) (Variables.agreeBut_replace _ _ _ [("GOPATH", "/one:/two")] _)
  · obtain ⟨-, -, -, -, hbehind, -⟩ := locate_firstFound toolHost
      (toolVariables "/one:/two" "/go") (toolVariables "/one:/two:/three" "/go") "golint"
    exact hbehind ["/one"] "/two" [] ["/three"] (Variables.agreeBut_replace _ _ _ [] _)
      (by decide +kernel) (by decide +kernel) (by decide) htwo
  · obtain ⟨-, -, -, -, -, hempty⟩ := locate_firstFound toolHost
      (toolVariables "/one:/two" "/go") (toolVariables ":/one::/two:" "/go") "golint"
    exact hempty (Variables.agreeBut_replace _ _ _ [] _) (by decide +kernel)

/-! ## Refused searches -/

theorem isName_bin : IsName "bin" := ⟨by decide, by decide, by decide⟩

theorem ofText_slash_append {name : String} (hname : IsName name) :
    Path.ofText ("/" ++ name) = ⟨.slash, [name]⟩ := by
  have htext : (⟨.slash, [name]⟩ : Path).text = "/" ++ name := by
    rw [← String.toList_inj]
    unfold Path.text
    simp [Root.text, toList_joinWith_cons]
  rw [← htext]
  exact Path.ofText_text (by simpa using hname)

theorem binaryIn_slash_append {name : String} (hname : IsName name) (htool : IsName tool) :
    binaryIn ("/" ++ name) tool = ⟨.slash, [name, "bin", tool]⟩ := by
  unfold binaryIn
  rw [ofText_slash_append hname, Path.child_of_isName _ isName_bin, Path.child_of_isName _ htool]
  rfl

theorem finds_of_longName {name : String} (hroot : h.files.Admits [] name) (htool : IsName tool)
    (hname : IsName name)
    (hlong : FileSystem.nameLimit < FileSystem.octets name)
    (hnul : Host.hasNul (binaryIn ("/" ++ name) tool).text = false) :
    (Lookup.inBin ("/" ++ name)).finds h tool
      = .error ⟨.nameTooLong, (binaryIn ("/" ++ name) tool).text⟩ := by
  have hstat : h.stat (binaryIn ("/" ++ name) tool).text = .error .nameTooLong := by
    rw [binaryIn_slash_append hname htool]
    exact FileSystem.stat_of_longName hroot (by simp [hname, isName_bin, htool]) hlong h.cwd
  have hfile : h.isFile (binaryIn ("/" ++ name) tool).text = .error .nameTooLong := by
    unfold Host.isFile Host.ask
    rw [hnul, hstat]
    rfl
  rw [Lookup.finds_inBin, lookAt_of_error hfile]

/-- **A first entry of `GOPATH` with too long a name** has every search for a tool but `go`
    refused, if the root directory may be entered. -/
theorem locate_of_longName {name : String} {after : List String}
    (hroot : h.files.Admits [] name) (htool : IsName tool)
    (hgo : tool ≠ goTool) (hname : IsName name)
    (hlong : FileSystem.nameLimit < FileSystem.octets name)
    (hnul : Host.hasNul (binaryIn ("/" ++ name) tool).text = false)
    (hentries : goPathEntries vs = ("/" ++ name) :: after) :
    locate h vs tool = .error ⟨.nameTooLong, (binaryIn ("/" ++ name) tool).text⟩ := by
  have hslash : holds tool '/' = false := by
    unfold holds
    simpa using htool.noSlash
  have hne : "/" ++ name ≠ "" := by simp [← String.toList_inj]
  have hfirst : goPathEntries vs = [] ++ ("/" ++ name) :: after := hentries
  obtain ⟨behind, hls⟩ := lookups_of_goPathEntries (h := h) hgo hne hfirst
  rw [locate_eq, hls, hslash]
  exact firstFound_cons_of_error (finds_of_longName hroot htool hname hlong hnul) behind

/-- A name with more octets than the system admits. -/
def longName : String := String.ofList (List.replicate (FileSystem.nameLimit + 1) 'a')

theorem not_mem_longName {c : Char} (hc : c ≠ 'a') : c ∉ longName.toList := by
  unfold longName
  rw [String.toList_ofList]
  exact fun hmem => hc (List.eq_of_mem_replicate hmem)

theorem goPathEntries_longName :
    goPathEntries (toolVariables ("/" ++ longName ++ ":/two") "") = ["/" ++ longName, "/two"] := by
  have hsplit : ("/" ++ longName ++ ":/two").toList
      = ("/" ++ longName).toList ++ ':' :: "/two".toList := by
    rw [String.toList_append]
    rfl
  have hcolon : ':' ∉ ("/" ++ longName).toList := by
    rw [String.toList_append]
    simpa using not_mem_longName (by decide)
  show splitAt ':' ("/" ++ longName ++ ":/two") = _
  unfold splitAt
  rw [hsplit, cutAt_append_cons, cutAt_of_not_mem hcolon]
  rw [List.map_append, List.map_singleton, String.ofList_toList]
  rfl

/-- **A search that is refused before it comes to the binary**: the second entry of `GOPATH` holds
    the tool, but the first has too long a name. -/
theorem not_firstFound_longName :
    goPathEntries (toolVariables ("/" ++ longName ++ ":/two") "") = ["/" ++ longName, "/two"]
      ∧ (Lookup.inBin "/two").finds toolHost "golint" = .ok true
      ∧ (Lookup.inBin "/two").binary "golint" = "/two/bin/golint"
      ∧ locate toolHost (toolVariables ("/" ++ longName ++ ":/two") "") "golint"
        = .error ⟨.nameTooLong, (binaryIn ("/" ++ longName) "golint").text⟩ := by
  have htool : IsName "golint" := ⟨by decide, by decide, by decide⟩
  have hlong : FileSystem.nameLimit < FileSystem.octets longName := by decide +kernel
  have hname : IsName longName := by
    refine ⟨not_mem_longName (by decide), ?_, ?_⟩
    · intro hempty
      rw [hempty] at hlong
      exact absurd hlong (by decide)
    · intro hdot
      rw [hdot] at hlong
      exact absurd hlong (by decide)
  have hroot : toolHost.files.Admits [] longName := ⟨0o755, rfl, fun _ => by decide⟩
  have hnul : Host.hasNul (binaryIn ("/" ++ longName) "golint").text = false := by
    have hmem : Char.ofNat 0 ∉ longName.toList := not_mem_longName (by decide)
    rw [binaryIn_slash_append hname htool]
    unfold Host.hasNul holds Path.text
    simp [Root.text, toList_joinWith_cons, hmem]
  exact ⟨goPathEntries_longName, eq_ok_of_toOption (by decide +kernel), by decide +kernel,
    locate_of_longName hroot htool (by decide) hname hlong hnul goPathEntries_longName⟩

end SourceCheck
