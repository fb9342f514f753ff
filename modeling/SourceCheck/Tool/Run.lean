import SourceCheck.Tool.Effect
import SourceCheck.Tool.Process

/-! # Running a tool

    What a run of a tool gives and lets others see depends on its outcome alone:

    - a tool that is missing or cannot be started gives no findings and a notice,
    - a tool that takes too long gives no findings and no notice,
    - a tool that ends gives the findings in its output, which go to the run log
      between a line that names the tool and an empty line; its exit status
      decides nothing.

    Only output that cannot be read makes a run fail.
-/

namespace SourceCheck

open SourceCheck.Text SourceCheck.Number SourceCheck.Log

/-! ## Reading output -/

/-- What reads the output of a tool: findings, or the wording of a fault. -/
abbrev OutputReader := Origin → String → Except String (List Finding)

def readFindings (working : Path) : OutputReader := fun origin output =>
  match Finding.ofOutput working origin output with
  | .ok fs => .ok fs
  | .error e => .error e.message

/-- What the log is told about output that was read. -/
def readingRecord (origin : Origin) (output : String) (fs : List Finding) : Record :=
  record .debug "engines.parser"
    ("Parsed " ++ natText fs.length ++ " diagnostics from " ++ natText (output.toList.count '\n')
      ++ " lines")
    { Fields.only .engine with
      tool := origin.tool
      check := origin.check
      path := some origin.directory.text }

/-! ## Failures -/

/-- Why a check fails as a whole. -/
inductive CheckFailure where
  /-- The output of a tool cannot be read. -/
  | unreadable (tool cause : String)
  | noProgram
  | notText (index : Nat) (kind : String)
  /-- A text cannot be passed to the system. -/
  | unpassable
  /-- The time limit is too large to be counted. -/
  | uncountable
  /-- The time limit is no number. -/
  | unmeasurable (kind : String)
  /-- The coverage cannot be asked for. -/
  | coverage (message : String)
  deriving DecidableEq, Repr

def CheckFailure.message : CheckFailure → String
  | .unreadable tool cause => "Failed to parse output of " ++ tool ++ ": " ++ cause
  | .noProgram => "create_subprocess_exec() missing 1 required positional argument: 'program'"
  | .notText index kind =>
    "sequence item " ++ natText index ++ ": expected str instance, " ++ kind ++ " found"
  | .unpassable => "embedded null byte"
  | .uncountable => "int too large to convert to float"
  | .unmeasurable kind => "'<=' not supported between instances of '" ++ kind ++ "' and 'int'"
  | .coverage message => message

/-! ## Tasks -/

/-- What a task waits for. -/
inductive Wait where
  /-- The process of a command is made. -/
  | creation (command : List String)
  /-- The output of a command is complete, or its time is over. -/
  | output (command : List String)
  /-- The pipes of a process that was killed are closed. -/
  | drain
  deriving DecidableEq, Repr

/-- What comes of a task, step by step.  A step takes the task to where it next waits
    or to its end, and nothing else happens during a step. -/
inductive Task where
  /-- The last step: what others see of it, and what the task gives. -/
  | last (es : List Effect) (result : Except CheckFailure (List Finding))
  /-- A step after which the task waits: what others see of it, what the task waits
      for, when that comes, in microseconds, and the steps after it. -/
  | step (es : List Effect) (wait : Wait) (time : Nat) (rest : Task)
  deriving Repr

namespace Task

/-- All that a task lets others see, if it runs alone. -/
def effects : Task → List Effect
  | .last es _ => es
  | .step es _ _ rest => es ++ rest.effects

/-- What a task gives, if it runs alone. -/
def result : Task → Except CheckFailure (List Finding)
  | .last _ result => result
  | .step _ _ _ rest => rest.result

/-- The times at which a task goes on after it has waited. -/
def times : Task → List Nat
  | .last _ _ => []
  | .step _ _ time rest => time :: rest.times

end Task

namespace Invocation

/-! ## What the log is told -/

def shownCommand (argv : List String) : String := joinWith " " argv

def command (i : Invocation) : String := shownCommand i.argv

/-- What is told with records about an invocation. -/
def fields (i : Invocation) : Fields :=
  { Fields.only .runner with
    tool := some i.tool
    check := some i.check
    path := some i.directory.text }

/-- What is told with records about a process that ended. -/
def endFields (i : Invocation) (status : Int) (micros : Nat) : Fields :=
  { Fields.only .runner with
    tool := some i.tool
    check := some i.check
    exitCode := some status
    duration := some (Double.ofQuotient false micros 1000) }

def toolRecord (level : Level) (message : String) (fields : Fields) : Effect :=
  .record (record level "engines.runner" message fields)

def startEffect (argv : List String) (directory : Path) : Effect :=
  toolRecord .debug ("Executing command: " ++ shownCommand argv)
    { Fields.only .runner with path := some directory.text }

/-! ## The run log -/

/-- The line that names a tool that ended. -/
def header (i : Invocation) : String := "Finished running tool: " ++ i.command

/-- The lines for a tool that ended and whose output was read. -/
def block (i : Invocation) (fs : List Finding) : List String :=
  i.header :: fs.map Finding.logLine ++ [""]

/-! ## Runs -/

/-- The part of a finished run that is read. -/
def stream (i : Invocation) (output errors : String) : String :=
  if i.readsErrors then errors else output

/-- What the log is told of an exit status other than zero. -/
def statusRecords (i : Invocation) (status : Int) (micros : Nat) : List Effect :=
  if status = 0 then []
  else [toolRecord .debug ("Command exited with " ++ intText status ++ ": " ++ i.command)
    (i.endFields status micros)]

/-- What a tool that ended lets others see, and what it gives. -/
def finish (i : Invocation) (read : OutputReader) (status : Int) (output errors : String)
    (micros : Nat) : List Effect × Except CheckFailure (List Finding) :=
  let failed := i.statusRecords status micros
  let s := i.stream output errors
  match read i.origin s with
  | .error cause => (failed ++ [.line i.header], .error (.unreadable i.tool cause))
  | .ok fs =>
    (failed ++ [.line i.header, .record (readingRecord i.origin s fs)]
      ++ (fs.map fun f => Effect.line f.logLine) ++ [.line ""]
      ++ [toolRecord .debug (i.tool ++ " run completed: exit=" ++ intText status
          ++ " diagnostics=" ++ natText fs.length)
        { i.endFields status micros with details := [("diagnostics", .int fs.length)] }],
      .ok fs)

/-- The task of a tool that was found, by its outcome.  All lines for the run log are
    written in the last step. -/
def taskOf (i : Invocation) (read : OutputReader) (outcome : Outcome) : Task :=
  let start := startEffect i.argv i.directory
  match outcome with
  | .noProgram => .last [start] (.error .noProgram)
  | .unpassable => .last [start] (.error .unpassable)
  | .uncountable => .step [start] (.creation i.argv) 0 (.last [] (.error .uncountable))
  | .unmeasurable kind =>
    .step [start] (.creation i.argv) 0 (.last [] (.error (.unmeasurable kind)))
  | .refused cause file =>
    .last [start, toolRecord .warning
        ("Unable to execute " ++ i.program ++ ": " ++ cause.message file) i.fields,
      .notice i.missing] (.ok [])
  | .timedOut =>
    let text := (i.timeout.map Seconds.text).getD "None"
    let time := (i.timeout.bind Seconds.micros?).getD 0
    .step [start] (.creation i.argv) 0
      (.step [] (.output i.argv) time
        (.step [.kill i.argv true] .drain time
          (.last [toolRecord .warning ("Tool " ++ i.tool ++ " timed out after " ++ text
            ++ "s and was killed") i.fields] (.ok []))))
  | .finished status output errors micros =>
    let (es, result) := i.finish read status output errors micros
    .step [start] (.creation i.argv) 0 (.step [] (.output i.argv) micros (.last es result))

/-- The task of a tool whose program was not found. -/
def missingTask (i : Invocation) : Task :=
  .last [toolRecord .warning ("Tool " ++ i.tool ++ " could not be resolved") i.fields,
    .notice i.missing] (.ok [])

end Invocation

/-! ## Runs of tools -/

/-- What becomes of a tool that is to run. -/
inductive Fate where
  /-- Its program was not found. -/
  | missing
  /-- Its arguments are no command, so nothing is started. -/
  | spoiled (f : CheckFailure)
  /-- The system is told to start it. -/
  | started (outcome : Outcome)
  deriving Repr

/-- A run of a tool. -/
structure ToolRun where
  invocation : Invocation
  fate : Fate
  deriving Repr

/-- The task of a run. -/
def ToolRun.task (read : OutputReader) (r : ToolRun) : Task :=
  match r.fate with
  | .missing => r.invocation.missingTask
  | .spoiled f => .last [] (.error f)
  | .started outcome => r.invocation.taskOf read outcome

/-- Runs the tool of an invocation.  The second part of the result are the files
    afterwards. -/
def Invocation.run (x : Executor) (h : Host) (i : Invocation) : ToolRun × FileSystem :=
  match i.binary with
  | none => (⟨i, .missing⟩, h.files)
  | some _ =>
    let (outcome, files) := x h i.argv i.directory i.timeout
    (⟨i, .started outcome⟩, files)

end SourceCheck
