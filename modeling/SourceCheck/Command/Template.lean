import SourceCheck.Host.Basic

/-! # A configuration to start from

    The configuration switches the build, the lint and the vet check on and the
    coverage off, and shows the other options in comments.  It is written to a file
    that is not there, or over one if that was asked for; the folders on the way
    are made.
-/

namespace SourceCheck

open SourceCheck.Text

def configTemplate : String := joinWith "\n" [
  "# gocheck configuration template",
  "# Save this file as gocheck.toml next to your Go sources, or put the same",
  "# keys under [tool.gocheck] in pyproject.toml.",
  "",
  "# Compile the package containing the file (go build / go test -c).",
  "buildOnSave = true",
  "# buildFlags = [\"-race\"]",
  "# buildTags = \"integration\"",
  "",
  "# Run a linter against the file. Only golint receives the file name",
  "# automatically; pass it through lintFlags for other linters.",
  "lintOnSave = true",
  "# linter = \"golint\"",
  "# lintFlags = [\"-min_confidence=0.8\"]",
  "",
  "# Run go tool vet against the file.",
  "vetOnSave = true",
  "# vetFlags = [\"-shadow\"]",
  "",
  "coverOnSave = false",
  "",
  "# Kill tools that run longer than this many seconds.",
  "# toolTimeout = 60",
  ""]

/-- Why a configuration cannot be written. -/
inductive WriteFailure where
  | refused (cause : SystemError) (file : String)
  /-- The path cannot be passed to the system. -/
  | nulInPath
  deriving DecidableEq, Repr

def WriteFailure.message : WriteFailure → String
  | .refused cause file => cause.message file
  | .nulInPath => "embedded null byte"

def refusing {α : Type} (file : String) : Except SystemError α → Except WriteFailure α
  | .ok a => .ok a
  | .error e => .error (.refused e file)

def ensureDirectory (h : Host) (p : Path) : Except SystemError FileSystem :=
  match h.files.makeDirectory h.cwd p.text with
  | .ok files => .ok files
  | .error .notFound => .error .notFound
  | .error e =>
    match h.isDirectory p.text with
    | .ok true => .ok h.files
    | .ok false => .error e
    | .error other => .error other

/-- Makes a directory and those above it; `depth` bounds how many there are. -/
def ensureDirectories (h : Host) : Nat → Path → Except WriteFailure FileSystem
  | 0, p => refusing p.text (ensureDirectory h p)
  | depth + 1, p =>
    match ensureDirectory h p with
    | .error .notFound =>
      -- the root is its own parent, there is nothing above it to make
      if p.parent = p then .error (.refused .notFound p.text)
      else
        match ensureDirectories h depth p.parent with
        | .error e => .error e
        | .ok files => refusing p.text (ensureDirectory { h with files := files } p)
    | result => refusing p.text result

/-- What came of writing a configuration. -/
inductive Written where
  /-- Something is there already, so nothing was done. -/
  | kept
  /-- It was written; these are the files now. -/
  | done (files : FileSystem)

/-- Writes a text to a file; folders that are not there are made. -/
def writeWithFolders (h : Host) (p : Path) (content : String) : Except WriteFailure FileSystem :=
  if Host.hasNul p.parent.text then .error .nulInPath
  else match ensureDirectories h p.parent.parts.length p.parent with
    | .error e => .error e
    | .ok files =>
      if Host.hasNul p.text then .error .nulInPath
      else refusing p.text (files.write h.cwd p.text (Utf8.encode content))

/-- Writes the configuration to a path; with `force` also over a file that is there. -/
def writeConfig (h : Host) (p : Path) (force : Bool) : Except WriteFailure Written :=
  match refusing p.text (h.isThere p.text) with
  | .error e => .error e
  | .ok isThere =>
    if isThere && !force then .ok .kept else (writeWithFolders h p configTemplate).map .done

end SourceCheck
