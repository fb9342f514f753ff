import Mathlib.Data.List.Basic
import SourceCheck.Proofs.Options.Loading

/-! # The search for options

    Without a named file, options are searched for in the folders from a start folder up to the
    root, in each in three files.  A candidate is passed over if it is no file, or a project file
    without an entry for this program (`Skips`); the first one that is not decides, and what it
    decides is told from its own text (`Decides`).  So a search gives what its first deciding
    candidate decides, or the default options if there is none, and nothing behind that candidate
    is looked at: hosts that agree up to it give the same (`search_firstMatch`).  There is no
    search at all if the start path has no canonical form or may not be looked at. -/

namespace SourceCheck

open SourceCheck.Text

/-! ## Folders -/

/-- The folders from one up to the root, each followed by the one above it. -/
inductive WalksUp : Path → List Path → Prop
  /-- Above the root there is none. -/
  | root {p : Path} (hroot : p.parts = []) : WalksUp p [p]
  /-- Above any other folder there is one. -/
  | up {p : Path} {above : List Path} (hne : p.parts ≠ []) (habove : WalksUp p.parent above) :
    WalksUp p (p :: above)

namespace Path

theorem parents_of_nil {p : Path} (h : p.parts = []) : p.parents = [] := by
  unfold parents
  rw [h]
  rfl

theorem parents_of_ne_nil {p : Path} (h : p.parts ≠ []) :
    p.parents = p.parent :: p.parent.parents := by
  obtain ⟨n, hn⟩ : ∃ n, p.parts.length = n + 1 :=
    Nat.exists_eq_succ_of_ne_zero fun h0 => h (List.length_eq_zero_iff.mp h0)
  unfold parents parent
  rw [List.length_dropLast, hn, List.range_succ_eq_map, List.map_cons, List.map_map]
  congr 1
  -- the first of the parents
  · rw [List.dropLast_eq_take, hn]
    rfl
  -- the others are the parents of the parent, one index further
  · apply List.map_congr_left
    intro i _
    have htake : (p.parts.take n).take (n - 1 - i) = p.parts.take (n + 1 - 1 - (i + 1)) := by
      rw [List.take_take]
      congr 1
      omega
    rw [List.dropLast_eq_take, hn, Nat.add_sub_cancel, htake]
    rfl

end Path

theorem walksUp_parents (p : Path) : WalksUp p (p :: p.parents) := by
  -- by the number of names in the path, of which each step up takes one away
  induction hn : p.parts.length generalizing p with
  | zero =>
    have hroot : p.parts = [] := List.length_eq_zero_iff.mp hn
    rw [Path.parents_of_nil hroot]
    exact .root hroot
  | succ n ih =>
    have hne : p.parts ≠ [] := fun hnil => by simp [hnil] at hn
    have hparent : p.parent.parts.length = n := by
      unfold Path.parent
      rw [List.length_dropLast, hn, Nat.add_sub_cancel]
    rw [Path.parents_of_ne_nil hne]
    exact .up hne (ih p.parent hparent)

theorem WalksUp.eq_parents {p : Path} {folders : List Path} (h : WalksUp p folders) :
    folders = p :: p.parents := by
  induction h with
  | root hroot => rw [Path.parents_of_nil hroot]
  | up hne _ ih => rw [Path.parents_of_ne_nil hne, ih]

/-! ## Candidates -/

variable {h : Host} {file : Path}

/-- The entry for this program among those for all tools in a document; a null is none. -/
def toolEntry? (document : List (String × Value)) : Option Value :=
  ((Value.lookup "tool" document).bind (Value.get? "gocheck")).filter (!·.isNull)

/-- **A candidate is passed over.** -/
inductive Skips (h : Host) (file : Path) : Prop
  /-- It is no regular file. -/
  | noFile (hfile : h.isFile file.text = .ok false)
  /-- It is a project file, and its document has no entry for this program. -/
  | noEntry {document : List (String × Value)} (hfile : h.isFile file.text = .ok true)
    (hname : file.name = projectFile) (hdocument : readDocument h file = .ok document)
    (hentry : toolEntry? document = none)

/-- The options that are written in a candidate. -/
inductive Defines (h : Host) (file : Path) : List (String × Value) → Prop
  /-- A file of its own holds nothing else. -/
  | document {document : List (String × Value)} (hname : file.name ≠ projectFile)
    (hdocument : readDocument h file = .ok document) : Defines h file document
  /-- In a project file they are the table of an entry. -/
  | entry {document options : List (String × Value)} (hname : file.name = projectFile)
    (hdocument : readDocument h file = .ok document)
    (hentry : toolEntry? document = some (.map options)) : Defines h file options

/-- **What a candidate decides** that is not passed over. -/
inductive Decides (h : Host) (file : Path) : Except LoadFailure Loaded → Prop
  /-- The system refuses to read it. -/
  | unread {e : SystemError} (hfile : h.isFile file.text = .ok true)
    (hread : h.files.read h.cwd file.text = .error e) :
    Decides h file (.error (.unreadable file (.system e file.text)))
  /-- Its text is no document. -/
  | malformed {s message : String} (hfile : h.isFile file.text = .ok true)
    (htext : readText h file = .ok s) (hdocument : Toml.read s = .error (.malformed message)) :
    Decides h file (.error (.unreadable file (.malformed message)))
  /-- Its entry for this program is no table. -/
  | notTable {document : List (String × Value)} {v : Value} (hfile : h.isFile file.text = .ok true)
    (hname : file.name = projectFile) (hdocument : readDocument h file = .ok document)
    (hentry : toolEntry? document = some v) (hv : ∀ options, v ≠ .map options) :
    Decides h file (.error (.notTable file))
  /-- Its options are not valid. -/
  | invalid {options : List (String × Value)} {issues : List Issue}
    (hfile : h.isFile file.text = .ok true) (hoptions : Defines h file options)
    (hvalid : Options.validate options = .error issues) :
    Decides h file (.error (.invalid file issues))
  /-- Its options are valid. -/
  | loaded {options : List (String × Value)} {o : Options}
    (hfile : h.isFile file.text = .ok true) (hoptions : Defines h file options)
    (hvalid : Options.validate options = .ok o) : Decides h file (.ok ⟨o, some file⟩)
  /-- It breaks the load down. -/
  | breaks {f : LoadFailure} (hbreaks : BreaksLoad h file f) : Decides h file (.error f)

/-! ### Entries -/

theorem optionsIn_of_ne {document : List (String × Value)} (hname : file.name ≠ projectFile) :
    optionsIn file document = .ok (some document) := by
  unfold optionsIn
  rw [if_pos hname]

theorem optionsIn_of_eq (hname : file.name = projectFile) (document : List (String × Value)) :
    optionsIn file document = match toolEntry? document with
      | none => .ok none
      | some (.map options) => .ok (some options)
      | some _ => .error (.notTable file) := by
  unfold optionsIn toolEntry?
  rw [if_neg (not_not_intro hname)]
  cases Value.lookup "tool" document with
  | none => rfl
  | some tool =>
    cases tool with
    | map tools =>
      dsimp only [Option.bind_some, Value.get?]
      cases Value.lookup "gocheck" tools with
      | none => rfl
      | some entry => cases entry <;> rfl
    | _ => rfl

/-! ### Documents -/

theorem readDocument_of_readText {s : String} {document : List (String × Value)}
    (htext : readText h file = .ok s) (hread : Toml.read s = .ok document) :
    readDocument h file = .ok document := by
  unfold readDocument
  rw [htext]
  dsimp only
  rw [hread]

/-! ### What is loaded -/

/-- What is loaded from the options in a candidate, if there are any. -/
def loadedFrom (required : Bool) (file : Path) :
    Option (List (String × Value)) → Except LoadFailure (Option Loaded)
  | none => if required then .error (.noSection file) else .ok none
  | some options =>
    match Options.validate options with
    | .ok o => .ok (some ⟨o, some file⟩)
    | .error issues => .error (.invalid file issues)

theorem loadedFrom_of_ok {required : Bool} {options : List (String × Value)} {o : Options}
    (hvalid : Options.validate options = .ok o) :
    loadedFrom required file (some options) = .ok (some ⟨o, some file⟩) := by
  unfold loadedFrom
  dsimp only
  rw [hvalid]

theorem loadedFrom_of_error {required : Bool} {options : List (String × Value)}
    {issues : List Issue} (hvalid : Options.validate options = .error issues) :
    loadedFrom required file (some options) = .error (.invalid file issues) := by
  unfold loadedFrom
  dsimp only
  rw [hvalid]

theorem loadCandidate_of_isFile {required : Bool} (hfile : h.isFile file.text = .ok true)
    {document : List (String × Value)} (hdocument : readDocument h file = .ok document) :
    loadCandidate h required file = (optionsIn file document).bind (loadedFrom required file) := by
  unfold loadCandidate
  rw [hfile]
  dsimp only [asking]
  rw [hdocument]
  dsimp only
  cases optionsIn file document with
  | error e => rfl
  | ok options? =>
    cases options? with
    | none => rfl
    | some options => rfl

theorem loadCandidate_of_readDocument {required : Bool} {f : LoadFailure}
    (hfile : h.isFile file.text = .ok true) (hdocument : readDocument h file = .error f) :
    loadCandidate h required file = .error f := by
  unfold loadCandidate
  rw [hfile]
  dsimp only [asking]
  rw [hdocument]

theorem loadCandidate_of_defines {required : Bool} {options : List (String × Value)}
    (hfile : h.isFile file.text = .ok true) (hoptions : Defines h file options) :
    loadCandidate h required file = loadedFrom required file (some options) := by
  cases hoptions with
  | document hname hdocument =>
    rw [loadCandidate_of_isFile hfile hdocument, optionsIn_of_ne hname]
    rfl
  | entry hname hdocument hentry =>
    rw [loadCandidate_of_isFile hfile hdocument, optionsIn_of_eq hname, hentry]
    rfl

theorem loadCandidate_of_skips (hskips : Skips h file) : loadCandidate h false file = .ok none := by
  cases hskips with
  | noFile hfile =>
    unfold loadCandidate
    rw [hfile]
    rfl
  | noEntry hfile hname hdocument hentry =>
    rw [loadCandidate_of_isFile hfile hdocument, optionsIn_of_eq hname, hentry]
    rfl

theorem loadCandidate_of_decides {r : Except LoadFailure Loaded} (hdecides : Decides h file r) :
    loadCandidate h false file = r.map some := by
  cases hdecides with
  | unread hfile hread =>
    apply loadCandidate_of_readDocument hfile
    unfold readDocument readText
    rw [hread]
  | malformed hfile htext hdocument =>
    apply loadCandidate_of_readDocument hfile
    unfold readDocument
    rw [htext]
    dsimp only
    rw [hdocument]
  | @notTable document v hfile hname hdocument hentry hv =>
    -- what stands under the tool's name is no table
    rw [loadCandidate_of_isFile hfile hdocument, optionsIn_of_eq hname, hentry]
    cases v with
    | map options => exact absurd rfl (hv options)
    | _ => rfl
  | invalid hfile hoptions hvalid =>
    exact (loadCandidate_of_defines hfile hoptions).trans (loadedFrom_of_error hvalid)
  | loaded hfile hoptions hvalid =>
    exact (loadCandidate_of_defines hfile hoptions).trans (loadedFrom_of_ok hvalid)
  | breaks hbreaks => exact loadCandidate_of_breaksLoad hbreaks false

/-- A file that cannot be read as a document decides. -/
theorem decides_of_readDocument {f : LoadFailure} (hfile : h.isFile file.text = .ok true)
    (hdocument : readDocument h file = .error f) : Decides h file (.error f) := by
  -- either the run breaks off here or one of the two errors that are reported
  cases hf : f.isConfigurationError with
  | false => exact .breaks (breaksLoad_of_readDocument hfile hdocument hf)
  | true =>
    unfold readDocument at hdocument
    split at hdocument
    · next e htext =>
      obtain rfl := Except.error.inj hdocument
      unfold readText at htext
      split at htext
      · next e hread =>
        obtain rfl := Except.error.inj htext
        exact .unread hfile hread
      · split at htext
        · obtain rfl := Except.error.inj htext
          contradiction
        · contradiction
    · next s htext =>
      split at hdocument
      · contradiction
      · next message hmalformed =>
        obtain rfl := Except.error.inj hdocument
        exact .malformed hfile htext hmalformed
      · obtain rfl := Except.error.inj hdocument
        contradiction

/-- A file in which options are written decides. -/
theorem exists_decides_of_defines {options : List (String × Value)}
    (hfile : h.isFile file.text = .ok true) (hoptions : Defines h file options) :
    ∃ r, Decides h file r := by
  cases hvalid : Options.validate options with
  | error issues => exact ⟨_, .invalid hfile hoptions hvalid⟩
  | ok o => exact ⟨_, .loaded hfile hoptions hvalid⟩

/-- **Each candidate is passed over or decides.** -/
theorem skips_or_decides (h : Host) (file : Path) : Skips h file ∨ ∃ r, Decides h file r := by
  cases hfile : h.isFile file.text with
  | error e => exact .inr ⟨_, .breaks (.refused hfile)⟩
  | ok isFile =>
    cases isFile with
    | false => exact .inl (.noFile hfile)
    | true =>
      cases hdocument : readDocument h file with
      | error f => exact .inr ⟨_, decides_of_readDocument hfile hdocument⟩
      | ok document =>
        -- only the project file may lack an entry of its own
        by_cases hname : file.name = projectFile
        · cases hentry : toolEntry? document with
          | none => exact .inl (.noEntry hfile hname hdocument hentry)
          | some v =>
            by_cases hv : ∃ options, v = .map options
            · obtain ⟨options, rfl⟩ := hv
              exact .inr (exists_decides_of_defines hfile (.entry hname hdocument hentry))
            · have hno : ∀ options, v ≠ .map options := fun options heq => hv ⟨options, heq⟩
              exact .inr ⟨_, .notTable hfile hname hdocument hentry hno⟩
        · exact .inr (exists_decides_of_defines hfile (.document hname hdocument))

theorem Decides.not_skips {r : Except LoadFailure Loaded} (hdecides : Decides h file r) :
    ¬Skips h file := by
  intro hskips
  have hload := (loadCandidate_of_decides hdecides).symm.trans (loadCandidate_of_skips hskips)
  exact map_some_ne r hload

theorem skips_iff : Skips h file ↔ loadCandidate h false file = .ok none := by
  constructor
  · exact loadCandidate_of_skips
  · intro hload
    rcases skips_or_decides h file with hskips | ⟨r, hdecides⟩
    · exact hskips
    · exact absurd ((loadCandidate_of_decides hdecides).symm.trans hload) (map_some_ne r)

theorem decides_iff {r : Except LoadFailure Loaded} :
    Decides h file r ↔ loadCandidate h false file = r.map some := by
  constructor
  · exact loadCandidate_of_decides
  · intro hload
    rcases skips_or_decides h file with hskips | ⟨r', hdecides⟩
    · exact absurd (hload.symm.trans (loadCandidate_of_skips hskips)) (map_some_ne r)
    · -- one candidate decides one thing
      have hmap : r'.map some = r.map some := (loadCandidate_of_decides hdecides).symm.trans hload
      exact eq_of_map_some hmap ▸ hdecides

/-! ## Searches -/

/-- **What a row of candidates gives**: what the first one decides that is not passed over, or the
    default options. -/
inductive FirstDecides (h : Host) (files : List Path) : Except LoadFailure Loaded → Prop
  /-- A candidate decides, and those before it are passed over. -/
  | decided {before after : List Path} {file : Path} {r : Except LoadFailure Loaded}
    (hfiles : files = before ++ file :: after) (hbefore : ∀ g ∈ before, Skips h g)
    (hfile : Decides h file r) : FirstDecides h files r
  /-- All candidates are passed over. -/
  | none (hfiles : ∀ g ∈ files, Skips h g) : FirstDecides h files (.ok ⟨Options.default, none⟩)

theorem FirstDecides.cons {files : List Path} {r : Except LoadFailure Loaded}
    (hfile : Skips h file) (hrest : FirstDecides h files r) : FirstDecides h (file :: files) r := by
  cases hrest with
  | @decided before after g r hfiles hbefore hg =>
    have hcons : file :: files = (file :: before) ++ g :: after := by
      rw [hfiles, List.cons_append]
    exact .decided hcons (List.forall_mem_cons.mpr ⟨hfile, hbefore⟩) hg
  | none hfiles => exact .none (List.forall_mem_cons.mpr ⟨hfile, hfiles⟩)

/-- **The first candidate that is not passed over decides.** -/
theorem firstDecides_loadFirst (h : Host) (files : List Path) :
    FirstDecides h files (loadFirst h files) := by
  induction files with
  | nil => exact .none (List.forall_mem_nil _)
  | cons file rest ih =>
    have hfirst : file :: rest = [] ++ file :: rest := rfl
    have hnil : ∀ g ∈ ([] : List Path), Skips h g := List.forall_mem_nil _
    unfold loadFirst
    split
    · next e hload => exact .decided hfirst hnil (decides_iff.mpr hload)
    · next loaded hload => exact .decided hfirst hnil (decides_iff.mpr hload)
    · next hload => exact .cons (skips_iff.mpr hload) ih

theorem loadFirst_append {before : List Path} (hbefore : ∀ g ∈ before, Skips h g)
    (rest : List Path) : loadFirst h (before ++ rest) = loadFirst h rest := by
  induction before with
  | nil => rfl
  | cons file before ih =>
    obtain ⟨hfile, hbefore⟩ := List.forall_mem_cons.mp hbefore
    rw [List.cons_append, loadFirst, loadCandidate_of_skips hfile]
    exact ih hbefore

/-- A row of candidates gives one thing. -/
theorem loadFirst_eq_iff {files : List Path} {r : Except LoadFailure Loaded} :
    loadFirst h files = r ↔ FirstDecides h files r := by
  constructor
  · rintro rfl
    exact firstDecides_loadFirst h files
  · intro hfirst
    cases hfirst with
    -- both walks pass the same files, so only the deciding one is left to compare
    | @decided before after file r hfiles hbefore hfile =>
      rw [hfiles, loadFirst_append hbefore]
      unfold loadFirst
      rw [loadCandidate_of_decides hfile]
      cases r with
      | error f => rfl
      | ok loaded => rfl
    | none hfiles =>
      have hall := loadFirst_append hfiles []
      rw [List.append_nil] at hall
      exact hall

/-! ### Two hosts -/

/-- **Two hosts hold the same at a candidate**: both have a file there or neither has, and it
    reads the same. -/
structure SameCandidate (h h' : Host) (file : Path) : Prop where
  /-- Both have a file there or neither has. -/
  isFile : h'.isFile file.text = h.isFile file.text
  /-- A file reads the same. -/
  read : h.isFile file.text = .ok true →
    h'.files.read h'.cwd file.text = h.files.read h.cwd file.text

/-- **Two hosts agree on some candidates up to the one that decides.** -/
def SameUpToDeciding (h h' : Host) (files : List Path) : Prop :=
  ∀ before file after, files = before ++ file :: after → (∀ g ∈ before, Skips h g) →
    SameCandidate h h' file

theorem SameCandidate.loadCandidate_eq {h' : Host} (hsame : SameCandidate h h' file)
    (required : Bool) : loadCandidate h' required file = loadCandidate h required file := by
  unfold loadCandidate
  rw [hsame.isFile]
  cases hfile : h.isFile file.text with
  | error e => rfl
  | ok isFile =>
    cases isFile with
    | false => rfl
    | true =>
      have hdocument : readDocument h' file = readDocument h file := by
        unfold readDocument readText
        rw [hsame.read hfile]
      rw [hdocument]

theorem SameUpToDeciding.tail {h' : Host} {files : List Path}
    (hsame : SameUpToDeciding h h' (file :: files)) (hfile : Skips h file) :
    SameUpToDeciding h h' files := by
  intro before g after hfiles hbefore
  have hcons : file :: files = (file :: before) ++ g :: after := by
    rw [hfiles, List.cons_append]
  exact hsame _ g after hcons (List.forall_mem_cons.mpr ⟨hfile, hbefore⟩)

theorem SameUpToDeciding.loadFirst_eq {h' : Host} {files : List Path}
    (hsame : SameUpToDeciding h h' files) : loadFirst h' files = loadFirst h files := by
  induction files with
  | nil => rfl
  | cons file rest ih =>
    have hfile : SameCandidate h h' file :=
      hsame [] file rest rfl (List.forall_mem_nil _)
    -- both hosts load the same here, and go on together if that is nothing
    have hcandidate := hfile.loadCandidate_eq false
    unfold loadFirst
    rw [hcandidate]
    cases hload : loadCandidate h false file with
    | error e => rfl
    | ok loaded? =>
      cases loaded? with
      | none => exact ih (hsame.tail (skips_iff.mpr hload))
      | some loaded => rfl

/-- Once a candidate decides, nothing behind it has to agree. -/
theorem sameUpToDeciding_of_decides {h' : Host} {before after : List Path}
    {r : Except LoadFailure Loaded} (hbefore : ∀ g ∈ before, SameCandidate h h' g)
    (hsame : SameCandidate h h' file) (hfile : Decides h file r) :
    SameUpToDeciding h h' (before ++ file :: after) := by
  intro earlier g later hfiles hearlier
  -- the two ways to cut the row: behind the deciding candidate, or in front of it
  rcases List.append_eq_append_iff.mp hfiles with ⟨gap, hgap, hrest⟩ | ⟨gap, hgap, hrest⟩
  · cases gap with
    | nil =>
      obtain ⟨rfl, -⟩ := List.cons.inj hrest
      exact hsame
    | cons first gap =>
      -- the deciding candidate would be passed over
      obtain ⟨rfl, -⟩ := List.cons.inj hrest
      have hmem : file ∈ earlier := by
        rw [hgap]
        exact List.mem_append_right _ List.mem_cons_self
      exact absurd (hearlier file hmem) hfile.not_skips
  · cases gap with
    | nil =>
      obtain ⟨rfl, -⟩ := List.cons.inj hrest
      exact hsame
    | cons first gap =>
      obtain ⟨rfl, -⟩ := List.cons.inj hrest
      have hmem : g ∈ before := by
        rw [hgap]
        exact List.mem_append_right _ List.mem_cons_self
      exact hbefore g hmem

/-! ### Starts -/

/-- **The candidates of a search from a start path**: three in each folder, from the start folder,
    or the folder of a start path that is none, up to the root. -/
inductive SearchedFrom (h : Host) (start : Path) : List Path → Prop
  /-- The start path has a canonical form, and it may be looked at. -/
  | walk {real : Path} {isFolder : Bool} {folders : List Path}
    (hpath : canonicalPath h start = .ok real) (hfolder : h.isDirectory real.text = .ok isFolder)
    (hwalk : WalksUp (if isFolder then real else real.parent) folders) :
    SearchedFrom h start (folders.flatMap fun folder =>
      [folder.child "gocheck.toml", folder.child ".gocheck.toml", folder.child "pyproject.toml"])

/-- What keeps a search from a start path from starting. -/
inductive BreaksStart (h : Host) (start : Path) : LoadFailure → Prop
  /-- The start path has no canonical form. -/
  | path {f : LoadFailure} (hpath : BreaksPath h start f) : BreaksStart h start f
  /-- The system refuses to say whether it is a folder. -/
  | folder {real : Path} {e : SystemError} (hpath : canonicalPath h start = .ok real)
    (hfolder : h.isDirectory real.text = .error e) :
    BreaksStart h start (.refused e real.text)

variable {start : Path} {files : List Path}

theorem BreaksStart.discover_eq {f : LoadFailure} (hbreaks : BreaksStart h start f) :
    discover h start = .error f := by
  unfold discover
  cases hbreaks with
  | path hpath => rw [canonicalPath_eq_error_iff.mpr hpath]
  | folder hpath hfolder =>
    rw [hpath]
    dsimp only
    rw [candidates_eq_error_iff.mpr ⟨_, hfolder, rfl⟩]

theorem SearchedFrom.discover_eq (hsearched : SearchedFrom h start files) :
    discover h start = loadFirst h files := by
  obtain ⟨hpath, hfolder, hwalk⟩ := hsearched
  unfold discover candidates
  rw [hpath]
  dsimp only
  rw [hfolder, hwalk.eq_parents]
  rfl

/-- **A search starts or it breaks down**, and never both. -/
theorem exists_searchedFrom_iff :
    (∃ files, SearchedFrom h start files) ↔ ∀ f, ¬BreaksStart h start f := by
  -- a start that was refused gives no list of files
  constructor
  · rintro ⟨files, hpath, hfolder, hwalk⟩ f hbreaks
    cases hbreaks with
    | path hbreaks =>
      rw [canonicalPath_eq_error_iff.mpr hbreaks] at hpath
      contradiction
    | folder hpath' hfolder' =>
      obtain rfl := Except.ok.inj (hpath.symm.trans hpath')
      rw [hfolder'] at hfolder
      contradiction
  -- a start that was not refused has its parents, root included
  · intro hsound
    cases hpath : canonicalPath h start with
    | error f => exact absurd (.path (canonicalPath_eq_error_iff.mp hpath)) (hsound f)
    | ok real =>
      cases hfolder : h.isDirectory real.text with
      | error e => exact absurd (.folder hpath hfolder) (hsound _)
      | ok isFolder => exact ⟨_, .walk hpath hfolder (walksUp_parents _)⟩

/-! ## The first match -/

/-- **A search for options** starts unless its start path has no canonical form or may not be
    looked at, and then breaks down.  One that starts gives what the first of its candidates
    decides that is not passed over, or the default options if all are.  It gives the same on
    every host that agrees on the candidates up to the one that decides, whatever the others
    hold. -/
theorem search_firstMatch (h : Host) (start : Option Path) :
    ((∃ files, SearchedFrom h (start.getD h.workingPath) files)
        ↔ ∀ f, ¬BreaksStart h (start.getD h.workingPath) f)
      ∧ (∀ f, BreaksStart h (start.getD h.workingPath) f →
        (loadOptions h none start).1 = .error f)
      ∧ ∀ files, SearchedFrom h (start.getD h.workingPath) files →
        (∀ r, (loadOptions h none start).1 = r ↔ FirstDecides h files r)
          ∧ ∀ (h' : Host) (start' : Option Path),
            SearchedFrom h' (start'.getD h'.workingPath) files → SameUpToDeciding h h' files →
            (loadOptions h' none start').1 = (loadOptions h none start).1 := by
  have hload : ∀ (h : Host) (start : Option Path),
      (loadOptions h none start).1 = discover h (start.getD h.workingPath) := fun _ _ => rfl
  refine ⟨exists_searchedFrom_iff, ?_, ?_⟩
  · intro f hbreaks
    rw [hload, hbreaks.discover_eq]
  · intro files hsearched
    constructor
    · intro r
      rw [hload, hsearched.discover_eq]
      exact loadFirst_eq_iff
    · intro h' start' hsearched' hsame
      rw [hload, hload, hsearched.discover_eq, hsearched'.discover_eq]
      exact hsame.loadFirst_eq

/-- A host with a folder whose project file has no entry for this program, with options in the
    folder above, and with a link to itself. -/
def nestedHost : Host where
  files := { entries := [
    (["a"], .directory 0o755),
    (["a", "pyproject.toml"], .file "[tool.other]\n".toUTF8.toList 0o644),
    (["gocheck.toml"], .file "lintOnSave = true\n".toUTF8.toList 0o644),
    (["loop"], .link "loop")] }
  cwd := []
  environment := []

/-- The same host with a file that is no UTF-8 behind the options. -/
def spoiledHost : Host :=
  { nestedHost with files := nestedHost.files.put [".gocheck.toml"] (.file [0xff] 0o644) }

/-- The candidates from that folder on. -/
def nestedCandidates : List Path := [
  ⟨.slash, ["a", "gocheck.toml"]⟩, ⟨.slash, ["a", ".gocheck.toml"]⟩,
  ⟨.slash, ["a", "pyproject.toml"]⟩, ⟨.slash, ["gocheck.toml"]⟩,
  ⟨.slash, [".gocheck.toml"]⟩, ⟨.slash, ["pyproject.toml"]⟩]

/-- What the first of them decides that is not passed over. -/
def nestedLoaded : Loaded :=
  ⟨{ Options.default with lint := true }, some ⟨.slash, ["gocheck.toml"]⟩⟩

theorem breaksStart_loop :
    BreaksStart nestedHost ⟨.slash, ["loop"]⟩ (.circle ⟨⟨.slash, ["loop"]⟩⟩) := by
  have hnul : Host.hasNul (Path.text ⟨.slash, ["loop"]⟩) = false := by decide +kernel
  exact .path (.circle hnul rfl)

theorem searchedFrom_nested {h : Host}
    (hpath : (canonicalPath h ⟨.slash, ["a"]⟩).toOption = some ⟨.slash, ["a"]⟩)
    (hfolder : (h.isDirectory "/a").toOption = some true) :
    SearchedFrom h ⟨.slash, ["a"]⟩ nestedCandidates :=
  .walk (eq_ok_of_toOption hpath) (eq_ok_of_toOption hfolder)
    (.up (by decide) (.root rfl))

theorem skips_nested : ∀ g ∈ nestedCandidates.take 3, Skips nestedHost g := by
  have hown : Skips nestedHost ⟨.slash, ["a", "gocheck.toml"]⟩ :=
    .noFile (eq_ok_of_toOption (by decide +kernel))
  have hhidden : Skips nestedHost ⟨.slash, ["a", ".gocheck.toml"]⟩ :=
    .noFile (eq_ok_of_toOption (by decide +kernel))
  have hproject : Skips nestedHost ⟨.slash, ["a", "pyproject.toml"]⟩ := by
    have htext : readText nestedHost ⟨.slash, ["a", "pyproject.toml"]⟩ = .ok "[tool.other]\n" :=
      eq_ok_of_toOption (by decide +kernel)
    have hread : Toml.read "[tool.other]\n" = .ok [("tool", .map [("other", .map [])])] := by cbv
    exact .noEntry (eq_ok_of_toOption (by decide +kernel)) rfl
      (readDocument_of_readText htext hread) rfl
  simp only [nestedCandidates, List.take_succ_cons, List.take_zero, List.forall_mem_cons]
  exact ⟨hown, hhidden, hproject, List.forall_mem_nil _⟩

theorem decides_nested : Decides nestedHost ⟨.slash, ["gocheck.toml"]⟩ (.ok nestedLoaded) := by
  have htext : readText nestedHost ⟨.slash, ["gocheck.toml"]⟩ = .ok "lintOnSave = true\n" :=
    eq_ok_of_toOption (by decide +kernel)
  have hread : Toml.read "lintOnSave = true\n" = .ok [("lintOnSave", .bool true)] := by cbv
  exact .loaded (eq_ok_of_toOption (by decide +kernel))
    (.document (by decide) (readDocument_of_readText htext hread)) rfl

theorem sameUpToDeciding_spoiled : SameUpToDeciding nestedHost spoiledHost nestedCandidates := by
  have hbefore : ∀ g ∈ nestedCandidates.take 3, SameCandidate nestedHost spoiledHost g := by
    simp only [nestedCandidates, List.take_succ_cons, List.take_zero, List.forall_mem_cons]
    exact ⟨⟨rfl, fun _ => rfl⟩, ⟨rfl, fun _ => rfl⟩, ⟨rfl, fun _ => rfl⟩,
      List.forall_mem_nil _⟩
  exact sameUpToDeciding_of_decides hbefore ⟨rfl, fun _ => rfl⟩ decides_nested

theorem search_firstMatch_nested :
    BreaksStart nestedHost ⟨.slash, ["loop"]⟩ (.circle ⟨⟨.slash, ["loop"]⟩⟩)
      ∧ (loadOptions nestedHost none (some ⟨.slash, ["loop"]⟩)).1
        = .error (.circle ⟨⟨.slash, ["loop"]⟩⟩)
      ∧ SearchedFrom nestedHost ⟨.slash, ["a"]⟩ nestedCandidates
      ∧ (loadOptions nestedHost none (some ⟨.slash, ["a"]⟩)).1 = .ok nestedLoaded
      ∧ SearchedFrom spoiledHost ⟨.slash, ["a"]⟩ nestedCandidates
      ∧ SameUpToDeciding nestedHost spoiledHost nestedCandidates
      ∧ (loadOptions spoiledHost none (some ⟨.slash, ["a"]⟩)).1
        = (loadOptions nestedHost none (some ⟨.slash, ["a"]⟩)).1 := by
  have hsearched : SearchedFrom nestedHost ⟨.slash, ["a"]⟩ nestedCandidates :=
    searchedFrom_nested (by decide +kernel) (by decide +kernel)
  have hsearched' : SearchedFrom spoiledHost ⟨.slash, ["a"]⟩ nestedCandidates :=
    searchedFrom_nested (by decide +kernel) (by decide +kernel)
  have hfirst : FirstDecides nestedHost nestedCandidates (.ok nestedLoaded) :=
    .decided rfl skips_nested decides_nested
  obtain ⟨-, hbreak, -⟩ := search_firstMatch nestedHost (some ⟨.slash, ["loop"]⟩)
  obtain ⟨-, -, hload⟩ := search_firstMatch nestedHost (some ⟨.slash, ["a"]⟩)
  obtain ⟨hmatch, hagree⟩ := hload nestedCandidates hsearched
  exact ⟨breaksStart_loop, hbreak _ breaksStart_loop, hsearched, (hmatch _).mpr hfirst,
    hsearched', sameUpToDeciding_spoiled,
    hagree spoiledHost (some ⟨.slash, ["a"]⟩) hsearched' sameUpToDeciding_spoiled⟩

/-- **A search that does not start**: the start path is no folder, and the candidates of the
    folder above it decide that the options of the host are loaded; but it is a link to itself,
    and the load breaks down. -/
theorem not_firstDecides_loop :
    nestedHost.isDirectory (Path.text ⟨.slash, ["loop"]⟩) = .ok false
      ∧ WalksUp (Path.parent ⟨.slash, ["loop"]⟩) [⟨.slash, []⟩]
      ∧ FirstDecides nestedHost (nestedCandidates.drop 3) (.ok nestedLoaded)
      ∧ (loadOptions nestedHost none (some ⟨.slash, ["loop"]⟩)).1
        = .error (.circle ⟨⟨.slash, ["loop"]⟩⟩)
      ∧ ¬FirstDecides nestedHost (nestedCandidates.drop 3)
        (loadOptions nestedHost none (some ⟨.slash, ["loop"]⟩)).1 := by
  have hload : (loadOptions nestedHost none (some ⟨.slash, ["loop"]⟩)).1
      = .error (.circle ⟨⟨.slash, ["loop"]⟩⟩) := breaksStart_loop.discover_eq
  have hnone : ∀ g ∈ ([] : List Path), Skips nestedHost g :=
    List.forall_mem_nil _
  have hfirst : FirstDecides nestedHost (nestedCandidates.drop 3) (.ok nestedLoaded) :=
    .decided rfl hnone decides_nested
  refine ⟨eq_ok_of_toOption (by decide +kernel), .root rfl, hfirst, hload, ?_⟩
  intro hother
  rw [hload] at hother
  -- one row of candidates gives one thing
  have heq := (loadFirst_eq_iff.mpr hfirst).symm.trans (loadFirst_eq_iff.mpr hother)
  cases heq

end SourceCheck
