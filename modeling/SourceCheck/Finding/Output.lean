import SourceCheck.Finding.Basic
import SourceCheck.Finding.ReportLine
import SourceCheck.Text.Lines

/-! # Findings in a tool's output

    The lines of an output are of three kinds: lines that report a finding, lines
    that start with a tab and continue the finding reported before them, and
    noise.  Each reporting line makes one finding, in order; every continuation
    goes to the last finding before it, whatever noise stands between, and one
    with no finding before it is noise too.
-/

namespace SourceCheck

open SourceCheck.Text

/-! ## Kinds of lines -/

/-- A line of a tool's output. -/
inductive OutputLine where
  | continuation (text : String)
  | report (r : ReportLine)
  | noise
  | tooLong (e : NumberTooLong)
  deriving DecidableEq, Repr

def OutputLine.ofText (s : String) : OutputLine :=
  if startsWith s "\t" then .continuation s
  else match ReportLine.read s.toList with
    | .error e => .tooLong e
    | .ok none => .noise
    | .ok (some r) => .report r

/-- A line that reports a finding, with the lines that continue it. -/
structure Report where
  head : ReportLine
  more : List String
  deriving DecidableEq, Repr

/-- What a stretch of lines holds: continuations of a finding reported before it,
    and the reports in it. -/
structure Reports where
  /-- Continuations in front of the first report. -/
  leading : List String
  reports : List Report
  deriving DecidableEq, Repr

/-- A stretch of lines with one line put in front. -/
def Reports.add (line : OutputLine) (rest : Except NumberTooLong Reports) :
    Except NumberTooLong Reports :=
  match line with
  | .tooLong e => .error e
  | .noise => rest
  | .continuation s => rest.map fun r => { r with leading := s :: r.leading }
  | .report h => rest.map fun r => ⟨[], ⟨h, r.leading⟩ :: r.reports⟩

/-- What a list of lines holds; the first number that is too long spoils it. -/
def Reports.ofLines (lines : List OutputLine) : Except NumberTooLong Reports :=
  lines.foldr Reports.add (.ok ⟨[], []⟩)

/-! ## Findings -/

def Report.message (r : Report) : String := joinWith "\n" (r.head.message :: r.more)

/-- What is known about the tool whose output is read. -/
structure Origin where
  /-- The directory the tool ran in. -/
  directory : Path
  /-- The severity of findings that carry none. -/
  severity : Severity
  tool : Option String
  check : Option CheckKind
  deriving DecidableEq, Repr

/-- The file a tool means by a path: the file of that name in the directory it
    ran in, whatever directory it wrote. -/
def fileIn (working directory : Path) (reported : String) : Path :=
  (directory.child (Path.ofText reported).name).absolute working

def Report.finding (working : Path) (origin : Origin) (r : Report) : Finding where
  file := fileIn working origin.directory r.head.path
  line := r.head.line
  column := r.head.column
  message := r.message
  severity := r.head.severity.getD origin.severity
  tool := origin.tool
  check := origin.check

/-- The findings in a tool's output. -/
def Finding.ofOutput (working : Path) (origin : Origin) (output : String) :
    Except NumberTooLong (List Finding) :=
  (Reports.ofLines ((outputLines output).map OutputLine.ofText)).map fun r =>
    r.reports.map (Report.finding working origin)

end SourceCheck
