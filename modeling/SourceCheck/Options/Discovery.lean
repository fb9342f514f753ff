import SourceCheck.Log.Record
import SourceCheck.Options.Validate
import SourceCheck.Path.Canonical
import SourceCheck.Toml.Reader

/-! # Where options are found

    Options stand in a file of their own or in a section of the project file.  A
    file that is named must hold them.  Otherwise the folders from a start folder
    up to the root are searched, in each the files of three names in order, and
    the first file that holds options decides; files after it are not looked at.
-/

namespace SourceCheck

open SourceCheck.Text SourceCheck.Number

/-! ## Failures -/

/-- Why a file cannot be read as a document. -/
inductive Unreadable where
  | system (e : SystemError) (file : String)
  | malformed (message : String)
  | missing (file : String)
  deriving DecidableEq, Repr

def Unreadable.message : Unreadable → String
  | .system e file => e.message file
  | .malformed message => message
  | .missing file => file

/-- Why options cannot be loaded. -/
inductive LoadFailure where
  | unreadable (file : Path) (reason : Unreadable)
  | noSection (file : Path)
  | notTable (file : Path)
  | invalid (file : Path) (issues : List Issue)
  | undecodable (refusal : Utf8.Refusal)
  /-- The file holds an integer with too many digits. -/
  | numberTooLong (digits : Nat)
  /-- The path leads round in a circle. -/
  | circle (c : LinkCircle)
  | refused (e : SystemError) (file : String)
  /-- The path cannot be passed to the system. -/
  | nulInPath
  deriving Repr

namespace LoadFailure

/-- The failure is reported as one of the configuration. -/
def isConfigurationError : LoadFailure → Bool
  | .unreadable _ _ | .noSection _ | .notTable _ | .invalid _ _ => true
  | _ => false

/-- What is said in front of a reason for a file with bad options. -/
def invalidLead (file : Path) : String := "Invalid gocheck configuration in " ++ file.text ++ ": "

def message : LoadFailure → String
  | .unreadable file reason => "Unable to read " ++ file.text ++ ": " ++ reason.message
  | .noSection file =>
    invalidLead file ++ file.name ++ " does not define a [tool.gocheck] section"
  | .notTable file => invalidLead file ++ "[tool.gocheck] must be a TOML table"
  | .invalid file issues => invalidLead file ++ Issue.report issues
  | .undecodable refusal => refusal.message
  | .numberTooLong digits => tooLongMessage digits
  | .circle c => "Symlink loop from " ++ quoted c.path.text
  | .refused e file => e.message file
  | .nulInPath => "embedded null byte"

end LoadFailure

/-! ## Candidates -/

/-- The names of files with options, in the order in which they are tried. -/
def candidateNames : List String := ["gocheck.toml", ".gocheck.toml", "pyproject.toml"]

/-- The name of the file that holds options in a section only. -/
def projectFile : String := "pyproject.toml"

def asking {α : Type} (file : String) : Except SystemError α → Except LoadFailure α
  | .ok a => .ok a
  | .error e => .error (.refused e file)

def candidatesIn (folders : List Path) : List Path :=
  folders.flatMap fun folder => candidateNames.map folder.child

/-- The candidates for a start path: those in the start folder, or in the folder
    of a path that is none, and in the folders above. -/
def candidates (h : Host) (start : Path) : Except LoadFailure (List Path) :=
  (asking start.text (h.isDirectory start.text)).map fun isFolder =>
    let folder := if isFolder then start else start.parent
    candidatesIn (folder :: folder.parents)

/-! ## Files -/

/-- The options in a document: the whole table, or for the project file the table
    of its section, if there is one. -/
def optionsIn (file : Path) (document : List (String × Value)) :
    Except LoadFailure (Option (List (String × Value))) :=
  -- a file of its own holds nothing but the options
  if file.name ≠ projectFile then .ok (some document)
  else match Value.lookup "tool" document with
    | some (.map tools) =>
      match Value.lookup "gocheck" tools with
      | none => .ok none
      | some .null => .ok none
      | some (.map options) => .ok (some options)
      | some _ => .error (.notTable file)
    -- a missing table is no error, the search goes on
    | _ => .ok none

def readText (h : Host) (file : Path) : Except LoadFailure String :=
  match h.files.read h.cwd file.text with
  | .error e => .error (.unreadable file (.system e file.text))
  | .ok octets =>
    match Utf8.decodeStrict octets with
    | .error refusal => .error (.undecodable refusal)
    | .ok s => .ok (String.ofList (universalLineEnds s.toList))

def readDocument (h : Host) (file : Path) : Except LoadFailure (List (String × Value)) :=
  match readText h file with
  | .error e => .error e
  | .ok s =>
    match Toml.read s with
    | .ok document => .ok document
    | .error (.malformed message) => .error (.unreadable file (.malformed message))
    | .error (.tooLong digits) => .error (.numberTooLong digits)

/-- Options with the file they were found in, if any. -/
structure Loaded where
  options : Options
  file : Option Path
  deriving Repr

/-- Loads a candidate: nothing if it is no file, or a project file without the
    section where `required` does not ask for one. -/
def loadCandidate (h : Host) (required : Bool) (file : Path) :
    Except LoadFailure (Option Loaded) :=
  match asking file.text (h.isFile file.text) with
  | .error e => .error e
  | .ok false => .ok none
  | .ok true =>
    match readDocument h file with
    | .error e => .error e
    | .ok document =>
      match optionsIn file document with
      | .error e => .error e
      -- only a file that was named has to have the section
      | .ok none => if required then .error (.noSection file) else .ok none
      | .ok (some options) =>
        match Options.validate options with
        | .ok o => .ok (some ⟨o, some file⟩)
        | .error issues => .error (.invalid file issues)

/-- The first of some candidates that loads, or the default options. -/
def loadFirst (h : Host) : List Path → Except LoadFailure Loaded
  | [] => .ok ⟨Options.default, none⟩
  | file :: rest =>
    match loadCandidate h false file with
    | .error e => .error e
    | .ok (some loaded) => .ok loaded
    | .ok none => loadFirst h rest

/-! ## Loading -/

def canonicalPath (h : Host) (p : Path) : Except LoadFailure Path :=
  if Host.hasNul p.text then .error .nulInPath
  else match h.canonical p with
    | .ok p => .ok p
    | .error c => .error (.circle c)

def loadNamed (h : Host) (file : Path) : Except LoadFailure Loaded :=
  let file := file.absolute h.workingPath
  match canonicalPath h file with
  | .error e => .error e
  | .ok real =>
    match loadCandidate h true real with
    | .error e => .error e
    | .ok (some loaded) => .ok loaded
    | .ok none => .error (.unreadable file (.missing file.text))

/-- Searches for options from a start path on. -/
def discover (h : Host) (start : Path) : Except LoadFailure Loaded :=
  match canonicalPath h start with
  | .error e => .error e
  | .ok start =>
    match candidates h start with
    | .error e => .error e
    | .ok files => loadFirst h files

/-- What is told to the log about a search. -/
def discoveryRecords (result : Except LoadFailure Loaded) : List Log.Record :=
  match result with
  | .ok ⟨_, some file⟩ =>
    [Log.record .debug "config" ("Loaded configuration from " ++ file.text)
      { Log.Fields.only .config with path := some file.text }]
  | _ => []

/-- Loads options: from the file that is named, or else by a search from the
    start path, or from the working directory if there is none. -/
def loadOptions (h : Host) (named start : Option Path) :
    Except LoadFailure Loaded × List Log.Record :=
  match named with
  | some file => (loadNamed h file, [])
  | none =>
    let result := discover h (start.getD h.workingPath)
    (result, discoveryRecords result)

end SourceCheck
