import SourceCheck.Finding.Output
import SourceCheck.Host.Basic
import SourceCheck.Options.Basic

/-! # Tool invocations

    A check that runs a tool is described by an invocation: which tool, with which
    arguments, in which directory, and how its output is read.  The build and the
    vet check run the tool `go` and read its standard error; the lint check runs
    the linter and reads its standard output.
-/

namespace SourceCheck

open SourceCheck.Text

/-! ## Invocations -/

/-- All that is needed to run a tool for a check. -/
structure Invocation where
  check : CheckKind
  tool : String
  /-- The program file, if one was found. -/
  binary : Option String
  /-- The directory in which the tool runs. -/
  directory : Path
  /-- The severity of findings that carry none. -/
  severity : Severity
  /-- The standard error is read instead of the standard output. -/
  readsErrors : Bool
  /-- What the user is told if the tool is missing. -/
  missing : String
  args : List String
  /-- How long the tool may run. -/
  timeout : Option Seconds
  deriving DecidableEq, Repr

namespace Invocation

/-- The program: the binary, or the name of the tool if the binary is empty. -/
def program (i : Invocation) : String :=
  match i.binary with
  | none => i.tool
  | some "" => i.tool
  | some binary => binary

def argv (i : Invocation) : List String := i.program :: i.args

/-- What is known about findings in the output. -/
def origin (i : Invocation) : Origin := ⟨i.directory, i.severity, some i.tool, some i.check⟩

end Invocation

/-! ## Files -/

/-- A character, case aside; the long s counts as an s. -/
def sameLetter (small c : Char) : Bool :=
  c == small || c == small.toUpper || (small == 's' && c == 'ſ')

/-- A text starts with some small letters, case aside. -/
def startsWithLetters : List Char → List Char → Bool
  | [], _ => true
  | _ :: _, [] => false
  | small :: rest, c :: s => sameLetter small c && startsWithLetters rest s

/-- A file holds tests: its name ends in `_test.go`, case aside.  A line feed after
    that does not count. -/
def isTestFile (filename : String) : Bool :=
  let backwards := match filename.toList.reverse with
    | '\n' :: rest => rest
    | cs => cs
  startsWithLetters "_test.go".toList.reverse backwards

/-- The name of the file that a build writes and nobody reads. -/
def scratchName : String := "go-code-check"

/-- The variables that name a folder for scratch files, the first one first. -/
def scratchVariables : List String := ["TMPDIR", "TEMP", "TMP"]

/-- The folders for scratch files that every host may have. -/
def scratchFolders : List String := ["/tmp", "/var/tmp", "/usr/tmp"]

/-- A folder as it is named for scratch files: a single dot stays, all else is made
    absolute. -/
def namedFolder (h : Host) (s : String) : Path :=
  if s = "." then Path.ofText s else ((Path.ofText s).absolute h.workingPath).normal

/-- The folder for scratch files: the first that is there. -/
def scratchFolder (h : Host) : Path :=
  let named := scratchVariables.filterMap h.environment.nonEmpty?
  let candidates := (named ++ scratchFolders ++ [h.workingPath.text]).map (namedFolder h)
  (candidates.find? fun p => h.files.isDirectory h.cwd p.text).getD h.workingPath

def scratchPath (h : Host) : Path := ((scratchFolder h).child scratchName).normal

/-! ## Checks that run a tool -/

/-- A check that runs a tool. -/
inductive ToolCheck where
  | build
  | lint
  /-- The file is vetted. -/
  | vet
  deriving DecidableEq, Repr

/-- The name of the tool for builds and vetting. -/
def goTool : String := "go"

def Options.linterName (o : Options) : String :=
  if o.linter.isEmpty then defaultLinter else o.linter

namespace ToolCheck

def all : List ToolCheck := [.build, .lint, .vet]

def kind : ToolCheck → CheckKind
  | .build => .build
  | .lint => .lint
  | .vet => .vet

def isEnabled (o : Options) : ToolCheck → Bool
  | .build => o.build
  | .lint => o.lint
  | .vet => o.vet

def tool (o : Options) : ToolCheck → String
  | .lint => o.linterName
  | .build | .vet => goTool

/-- The severity of findings that carry none. -/
def severity : ToolCheck → Severity
  | .build => .error
  | .lint | .vet => .warning

def missing (h : Host) (linter : String) : ToolCheck → String
  | .lint => "The '" ++ linter ++ "' command is not available.  Please install it."
  | .build | .vet =>
    "No \"go\" binary could be found in GOROOT: \"" ++ h.environment.value "GOROOT" ++ "\""

end ToolCheck

def tagArgs (o : Options) : List String :=
  if o.buildTags.isEmpty then [] else ["-tags", o.buildTags]

/-- The arguments that open the build check: a file with tests is compiled with the
    tests of its package. -/
def buildStart (h : Host) (target : Path) : List String :=
  let scratch := (scratchPath h).text
  if isTestFile target.text then ["test", "-copybinary", "-o", scratch, "-c"]
  else ["build", "-o", scratch]

def buildArgs (h : Host) (target : Path) (o : Options) : List String :=
  buildStart h target ++ tagArgs o ++ o.buildFlags ++ ["."]

/-- The arguments of the lint check: only the default linter is told the file. -/
def lintArgs (target : Path) (o : Options) : List String :=
  o.lintFlags ++ (if o.linterName = defaultLinter then [target.text] else [])

def vetArgs (target : Path) (o : Options) : List String :=
  ["tool", "vet"] ++ o.vetFlags ++ [target.text]

def ToolCheck.args (h : Host) (target : Path) (o : Options) : ToolCheck → List String
  | .build => buildArgs h target o
  | .lint => lintArgs target o
  | .vet => vetArgs target o

def ToolCheck.invocation (h : Host) (target : Path) (o : Options) (binary : Option String)
    (c : ToolCheck) : Invocation where
  check := c.kind
  tool := c.tool o
  binary := binary
  directory := target.parent
  severity := c.severity
  readsErrors := c != .lint
  missing := c.missing h o.linterName
  args := c.args h target o
  timeout := o.timeout

/-- The checks that are wanted and run a tool, in merge order. -/
def Options.toolChecks (o : Options) : List ToolCheck := ToolCheck.all.filter (·.isEnabled o)

end SourceCheck
