import SourceCheck.Check.Run
import SourceCheck.Command.Request
import SourceCheck.Command.Template
import SourceCheck.Options.Discovery

/-! # Answering requests

    The answer to a request is an exit status and two texts.  The status is zero,
    or one if a finding is an error or a file is kept as it is, or two if the
    request or the configuration is wrong or a tool's output cannot be read.
-/

namespace SourceCheck.CommandLine

open SourceCheck SourceCheck.Text

/-! ## Answers -/

/-- The answer to a request. -/
structure Answer where
  status : Nat
  output : String
  errors : String
  files : FileSystem

/-- What a request needs and may lack because the value of an option was dropped. -/
inductive Lack where
  | config
  /-- The file to write a configuration to. -/
  | destination
  | listing
  deriving DecidableEq, Repr

/-- The wording for what a request lacks: there is an empty list instead. -/
def Lack.message : Lack → String
  | .config => Value.noAttributeWording "is_absolute" (Value.list []).kindName
  | .destination => Value.noAttributeWording "exists" (Value.list []).kindName
  | .listing => ListingFormat.unknownWording (.list [])

/-- Why a request has no answer. -/
inductive Failure where
  /-- The log cannot be set up. -/
  | log (f : Log.SetupFault)
  | lack (l : Lack)
  /-- Options cannot be looked for. -/
  | load (f : LoadFailure)
  | write (f : WriteFailure)
  | check (e : CheckError)
  deriving Repr

def Failure.message : Failure → String
  | .log f => f.message
  | .lack l => l.message
  | .load f => f.message
  | .write f => f.message
  | .check e => e.message

def remark (message : String) : String := "[" ++ programName ++ "] " ++ message ++ "\n"

/-! ## The standard error -/

def errorText (log : Log.Setup) (showLog : Bool) (time : String) : Effect → String
  | .record r => joinWith "" ((log.lines time [r]).map (· ++ "\n"))
  | .line s => if showLog then s ++ "\n" else ""
  | .notice message => joinWith "" ((log.lines time [Effect.noticeRecord message]).map (· ++ "\n"))
  | .kill _ _ => ""

def errorTexts (log : Log.Setup) (showLog : Bool) (time : String) (es : List Effect) : String :=
  joinWith "" (es.map (errorText log showLog time))

/-! ## Commands -/

def runInit (h : Host) (r : InitRequest) : Except Failure Answer :=
  match r.path with
  | none => .error (.lack .destination)
  | some path =>
    match writeConfig h path r.force with
    | .error e => .error (.write e)
    | .ok .kept =>
      .ok ⟨1, remark ("Refusing to overwrite existing file: " ++ path.text)
        ++ "Use --force if you want to replace it.\n", "", h.files⟩
    | .ok (.done files) => .ok ⟨0, remark ("Wrote starter config to " ++ path.text), "", files⟩

/-- What the log is told if no check is wanted. -/
def idleEffects (target : Path) (o : Options) : List Effect :=
  if o.anyEnabled then []
  else
    [.record (Log.record .warning "cli" ("No checks enabled for " ++ target.text)
      { Log.Fields.only .cli with path := some target.text })]

/-- The options of a request on top of those of a file.  A time limit that is set but
    lacks its number is an empty list. -/
def CheckRequest.optionsOn (r : CheckRequest) (o : Options) : UsableOptions :=
  let o := o.override r.overrides
  if r.lacksTimeout then .untyped (o.toNamed.override [("tool_timeout", .list [])]) else .typed o

def statusOf (fs : List Finding) : Nat := if fs.any (·.severity == .error) then 1 else 0

def outputOf (format : ListingFormat) (fs : List Finding) : String :=
  let s := listing format fs
  if s.isEmpty then "" else s ++ "\n"

/-- Runs the checks of a request with options that were loaded, in some order; `records`
    is what the log was told before. -/
def runLoadedIn (x : Executor) (order : Order) (h : Host) (time : String) (log : Log.Setup)
    (r : CheckRequest) (target : Path) (o : Options) (records : List Log.Record) :
    Except Failure Answer :=
  let run := checkIn x order h (.usual h) target (.options (r.optionsOn o))
  let errors := errorTexts log r.showLog time
    (records.map Effect.record ++ idleEffects target (o.override r.overrides) ++ run.effects)
  match run.result, r.listing with
  -- an answer that cannot be read is the one failure that becomes a status of its own
  | .error (.failed (.unreadable tool cause)), _ =>
    .ok ⟨2, "", errors ++ remark (CheckFailure.unreadable tool cause).message, run.files⟩
  | .error e, _ => .error (.check e)
  | .ok _, none => .error (.lack .listing)
  | .ok fs, some format => .ok ⟨statusOf fs, outputOf format fs, errors, run.files⟩

def runCheckIn (x : Executor) (order : Order) (h : Host) (time : String) (log : Log.Setup)
    (r : CheckRequest) : Except Failure Answer :=
  let target := r.file.absolute h.workingPath
  match r.config with
  | some none => .error (.lack .config)
  | config =>
    match loadOptions h (config.getD none) (some target.parent) with
    | (.error f, _) =>
      if f.isConfigurationError then .ok ⟨2, "", remark f.message, h.files⟩ else .error (.load f)
    | (.ok loaded, records) => runLoadedIn x order h time log r target loaded.options records

def runCheck (s : System) : Host → String → Log.Setup → CheckRequest → Except Failure Answer :=
  runCheckIn (execute s) usualMoves

/-! ## Requests -/

def stopped (h : Host) : Stop → Answer
  | .misuse program message => ⟨2, "", program ++ ": error: " ++ message ++ "\n", h.files⟩
  | .help _ => ⟨0, "", "", h.files⟩

def answerIn (x : Executor) (order : Order) (h : Host) (time : String) :
    Request → Except Failure Answer
  | .version => .ok ⟨0, programName ++ " " ++ version ++ "\n", "", h.files⟩
  | .init log r =>
    -- the log is set up before anything else, so its errors go first
    match log.setup h.environment with
    | .error e => .error (.log e)
    | .ok _ => runInit h r
  | .check log r =>
    match log.setup h.environment with
    | .error e => .error (.log e)
    | .ok log => runCheckIn x order h time log r

/-- Answers a command line, its checks in some order. -/
def runIn (x : Executor) (order : Order) (h : Host) (time : String) (args : List String) :
    Except Failure Answer :=
  match readRequest args with
  | .error stop => .ok (stopped h stop)
  | .ok r => answerIn x order h time r

def run (s : System) : Host → String → List String → Except Failure Answer :=
  runIn (execute s) usualMoves

end SourceCheck.CommandLine
