import SourceCheck.Check.RunLog
import SourceCheck.Check.Schedule
import SourceCheck.Options.Validate
import SourceCheck.Tool.Draft

/-! # Checking a file

    A check first reads its options.  If they are refused, nothing has happened.
    Then the run log is cleared, a program is looked for for each check that is
    wanted, and all tasks run side by side.  Their findings are merged in the
    order build, lint, vet, coverage, whatever the order in which they end.
-/

namespace SourceCheck

open SourceCheck.Text SourceCheck.Number SourceCheck.Log

/-! ## Options -/

/-- Options that a check can use. -/
inductive UsableOptions where
  | typed (o : Options)
  /-- Values of any kind, which nobody has validated. -/
  | untyped (o : NamedOptions)
  deriving Repr

namespace UsableOptions

def toNamed : UsableOptions → NamedOptions
  | .typed o => o.toNamed
  | .untyped o => o

/-- The checks that are wanted and run a tool, in merge order. -/
def toolChecks : UsableOptions → List ToolCheck
  | .typed o => o.toolChecks
  | .untyped o => o.toolChecks

def tool (o : UsableOptions) (c : ToolCheck) : Value :=
  match o with
  | .typed o => .text (c.tool o)
  | .untyped o => o.tool c

def toolsAsked (o : UsableOptions) : List Value := o.toolChecks.map o.tool

def asksCoverage : UsableOptions → Bool
  | .typed o => o.cover
  | .untyped o => (o.value "cover_on_save").isTruthy

end UsableOptions

/-- The options a check is given. -/
inductive GivenOptions where
  | options (o : UsableOptions)
  /-- Any other value; a mapping is validated. -/
  | value (v : Value)
  deriving Repr

/-- Why options are refused. -/
inductive OptionsRefusal where
  /-- They are neither options nor a mapping. -/
  | notMapping (kind : String)
  | invalid (issues : List Issue)
  deriving Repr

def OptionsRefusal.message : OptionsRefusal → String
  | .notMapping kind => "config must be a CheckConfig or a mapping, got " ++ kind
  | .invalid issues => Issue.report issues

/-- The options that a check uses. -/
def GivenOptions.read : GivenOptions → Except OptionsRefusal UsableOptions
  | .options o => .ok o
  | .value (.map members) =>
    match Options.validate members with
    | .ok o => .ok (.typed o)
    | .error issues => .error (.invalid issues)
  | .value v => .error (.notMapping v.kindName)

/-! ## Coverage -/

/-- What tells the gaps in the coverage of a file, or why it cannot. -/
abbrev Coverage := Path → Except String (List Finding)

def noCoverage : Coverage := fun _ => .ok []

def coverageTask (coverage : Coverage) (target : Path) : Task :=
  .last [] (match coverage target with
    | .ok fs => .ok fs
    | .error message => .error (.coverage message))

/-! ## Tasks -/

/-- The invocations of some checks, with what the log is told on the way. -/
def invocationsOf (h : Host) (target : Path) (o : Options) (resolver : Resolver) :
    List ToolCheck → Except LookupFailure (List Invocation × List Effect)
  | [] => .ok ([], [])
  | c :: rest =>
    match resolver.resolve h (c.tool o) with
    | .error e => .error e
    | .ok (binary, es) =>
      match invocationsOf h target o resolver rest with
      | .error e => .error e
      | .ok (is, more) => .ok (c.invocation h target o binary :: is, es ++ more)

def enabledInvocations (h : Host) (target : Path) (o : Options) (resolver : Resolver) :
    Except LookupFailure (List Invocation × List Effect) :=
  invocationsOf h target o resolver o.toolChecks

/-- What runs a tool on a host.  The second part of the result are the files
    afterwards. -/
abbrev Start := Host → ToolRun × FileSystem

/-- The runs that some starts give; each finds the files as the ones before left
    them. -/
def runsOf (h : Host) : List Start → List ToolRun × FileSystem
  | [] => ([], h.files)
  | start :: rest =>
    let (r, files) := start h
    let (rs, files) := runsOf { h with files := files } rest
    (r :: rs, files)

/-! ## Checks -/

/-- What a check works with. -/
structure Means where
  /-- What tells the programs of tools. -/
  resolver : Resolver
  coverage : Coverage
  reader : OutputReader

def Means.usual (h : Host) : Means :=
  ⟨.search h.environment, noCoverage, readFindings h.workingPath⟩

/-- Why a check gives no findings. -/
inductive CheckError where
  | refused (r : OptionsRefusal)
  /-- The system refuses to look for a program. -/
  | lookup (f : LookupFailure)
  /-- An invocation cannot be drawn up. -/
  | undrawn (f : DraftFault)
  | failed (f : CheckFailure)
  deriving Repr

def CheckError.message : CheckError → String
  | .refused r => r.message
  | .lookup f => f.message
  | .undrawn f => f.message
  | .failed f => f.message

/-- What comes of a check. -/
structure CheckRun where
  /-- The options were accepted, so the run log was cleared. -/
  started : Bool
  effects : List Effect
  coverageAsked : List Path
  toolsAsked : List Value
  result : Except CheckError (List Finding)
  files : FileSystem

/-- How many findings there are of each severity, in the order in which the
    severities first come. -/
def severityCounts (fs : List Finding) : List (String × Value) :=
  (firsts [] (fs.map (·.severity.name))).map fun name =>
    (name, .int (fs.countP (·.severity.name == name)))

/-- What the log is told at the end of a check. -/
def summaryRecord (target : Path) (tasks : List Task) (fs : List Finding) : Record :=
  let micros := (wakingTimes tasks).foldl (fun n (time, _) => max n time) 0
  record .info "engines.orchestrator"
    ("Checked " ++ target.name ++ ": " ++ natText fs.length ++ " diagnostics from "
      ++ natText tasks.length ++ " checks")
    { Fields.only .engine with
      path := some target.text
      duration := some (Double.ofQuotient false micros 1000)
      details := severityCounts fs }

/-- What a check starts, with what the log is told on the way. -/
def startsOf (x : Executor) (h : Host) (means : Means) (target : Path) :
    UsableOptions → Except CheckError (List Start × List Effect)
  | .typed o =>
    match enabledInvocations h target o means.resolver with
    | .error e => .error (.lookup e)
    | .ok (invocations, es) => .ok (invocations.map fun i h => i.run x h, es)
  | .untyped o =>
    match o.drafts h target means.resolver o.toolChecks with
    | .error e => .error (.undrawn e)
    | .ok (drafts, es) => .ok (drafts.map fun d h => d.start x h, es)

/-- A check whose tasks are made. -/
structure Prepared where
  target : Path
  toolsAsked : List Value
  /-- What the log was told while the programs were looked for. -/
  searching : List Effect
  runs : List ToolRun
  asksCoverage : Bool
  /-- The files after all tools have run. -/
  files : FileSystem

/-- A check of a file is made ready. -/
def prepare (x : Executor) (h : Host) (means : Means) (target : Path) (o : UsableOptions) :
    Except CheckError Prepared :=
  match startsOf x h means target o with
  | .error e => .error e
  | .ok (starts, searching) =>
    let (runs, files) := runsOf h starts
    .ok ⟨target, o.toolsAsked, searching, runs, o.asksCoverage, files⟩

namespace Prepared

def tasks (c : Prepared) (means : Means) : List Task :=
  c.runs.map (ToolRun.task means.reader)
    ++ (if c.asksCoverage then [coverageTask means.coverage c.target] else [])

/-- The run log when the tasks of a check have come some way. -/
def logAt (c : Prepared) (p : Progress) (before : RunLog) : RunLog :=
  before.clear.appendAll (Effect.lines (c.searching ++ p.effects))

/-- What comes of a check if its tasks ran as they did. -/
def conclude (c : Prepared) (means : Means) (p : Progress) : CheckRun :=
  let coverageAsked := if c.asksCoverage then [c.target] else []
  let effects := c.searching ++ p.effects
  match p.result with
  | .error e => ⟨true, effects, coverageAsked, c.toolsAsked, .error (.failed e), c.files⟩
  | .ok fs => ⟨true, effects ++ [.record (summaryRecord c.target (c.tasks means) fs)],
      coverageAsked, c.toolsAsked, .ok fs, c.files⟩

end Prepared

def checkWith (x : Executor) (order : Order) (h : Host) (means : Means) (target : Path)
    (o : UsableOptions) : CheckRun :=
  match prepare x h means target o with
  | .error e => ⟨true, [], [], o.toolsAsked, .error e, h.files⟩
  | .ok c => c.conclude means (runTasks order (c.tasks means))

def checkIn (x : Executor) (order : Order) (h : Host) (means : Means) (filename : Path)
    (given : GivenOptions) : CheckRun :=
  match given.read with
  | .error r => ⟨false, [], [], [], .error (.refused r), h.files⟩
  | .ok o => checkWith x order h means (filename.absolute h.workingPath) o

def check (s : System) : Host → Means → Path → GivenOptions → CheckRun :=
  checkIn (execute s) usualMoves

/-- The run log after a check. -/
def CheckRun.log (r : CheckRun) (before : RunLog) : RunLog :=
  if r.started then before.clear.appendAll (Effect.lines r.effects) else before

end SourceCheck
