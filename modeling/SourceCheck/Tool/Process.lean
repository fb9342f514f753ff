import SourceCheck.Text.Utf8
import SourceCheck.Tool.Invocation

/-! # Starting a process

    A process first enters its working directory and then runs its program.  A
    name without a slash is looked for in the directories of the search path; of
    several refusals the first one that is not an absence is reported.  Texts with
    a NUL character cannot be passed to the system.

    Which files are programs and what they do is for the system to say (`System`);
    nothing here depends on it.
-/

namespace SourceCheck

open SourceCheck.Text

/-! ## Systems -/

/-- How a process ended. -/
inductive Ending where
  /-- With an exit status and what was written to the standard output and the
      standard error, after some microseconds; a negative status tells of a
      signal. -/
  | finished (status : Int) (output errors : List UInt8) (micros : Nat)
  /-- It did not end in time. -/
  | unfinished
  deriving Repr

/-- A system that runs program files: told to run the file at a path with all its
    arguments and for at most some microseconds, it refuses to, or says how the
    process ended and what the files are then.  The path is read from the working
    directory of the host. -/
abbrev System := Host → Option Nat → String → List String → Except SystemError (Ending × FileSystem)

/-! ## Starts -/

/-- How the start of a process went on. -/
inductive Outcome where
  /-- The system refused to start it, for a reason about a file. -/
  | refused (cause : SystemError) (file : String)
  | noProgram
  /-- A text cannot be passed to the system. -/
  | unpassable
  /-- The time limit is too large to be counted. -/
  | uncountable
  /-- The time limit is of a kind that is no number. -/
  | unmeasurable (kind : String)
  /-- It did not end in time and was ended from outside. -/
  | timedOut
  /-- It ended with an exit status and two texts, after some microseconds. -/
  | finished (status : Int) (output errors : String) (micros : Nat)
  deriving DecidableEq, Repr

/-- The paths at which the program of a process may be. -/
def programPaths (h : Host) (program : String) : List String :=
  if holds program '/' then [program]
  else (splitAt ':' ((h.environment.get? "PATH").getD "/bin:/usr/bin")).map (joinText · program)

/-- Runs the first of some paths that the system accepts; `refusal` is what it said
    of those before. -/
def startFirst (s : System) (h : Host) (limit : Option Nat) (argv : List String) :
    SystemError → List String → Except SystemError (Ending × FileSystem)
  | refusal, [] => .error refusal
  | refusal, path :: rest =>
    match s h limit path argv with
    | .ok ending => .ok ending
    | .error e =>
      let isFirst := refusal == .notFound || refusal == .notDirectory
      startFirst s h limit argv (if isFirst then e else refusal) rest

def Outcome.ofEnding : Ending → Outcome
  | .unfinished => .timedOut
  | .finished status output errors micros =>
    .finished status (Utf8.decode output) (Utf8.decode errors) micros

/-- Runs a process in a directory and waits for it, at most for some seconds.  The
    second part of the result are the files afterwards. -/
def execute (s : System) (h : Host) (argv : List String) (directory : Path)
    (timeout : Option Seconds) : Outcome × FileSystem :=
  let program := argv.head?.getD ""
  if argv.isEmpty then (.noProgram, h.files)
  else if argv.any Host.hasNul || Host.hasNul directory.text then (.unpassable, h.files)
  else match h.files.enter h.cwd directory.text with
  | .error e => (.refused e directory.text, h.files)
  | .ok place =>
    match startFirst s { h with cwd := place } (timeout.bind Seconds.micros?) argv .notFound
        (programPaths h program) with
    | .error e => (.refused e program, h.files)
    | .ok (ending, files) =>
      if timeout.any Seconds.isTooLarge then (.uncountable, h.files)
      else (Outcome.ofEnding ending, files)

def Outcome.isStarted : Outcome → Bool
  | .refused _ _ | .noProgram | .unpassable => false
  | .uncountable | .unmeasurable _ | .timedOut | .finished _ _ _ _ => true

/-- The time limit that a value stands for, or the kind of a value that is none. -/
def timeLimit : Value → Except String (Option Seconds)
  | .null => .ok none
  | v =>
    match Seconds.ofValue? v with
    | some s => .ok (some s)
    | none => .error v.kindName

/-- What a system does with a command in a directory and a time limit: its outcome,
    and the files afterwards. -/
abbrev Executor := Host → List String → Path → Option Seconds → Outcome × FileSystem

/-- Runs a process with a time limit of any kind.  That it is no number shows only
    after the start. -/
def Executor.runFor (x : Executor) (h : Host) (argv : List String) (directory : Path)
    (timeout : Value) : Outcome × FileSystem :=
  match timeLimit timeout with
  | .ok limit => x h argv directory limit
  | .error kind =>
    let (outcome, _) := x h argv directory (some (.whole 0))
    (if outcome.isStarted then .unmeasurable kind else outcome, h.files)

/-- Runs a process of this host with a time limit of any kind. -/
def executeFor (s : System) (h : Host) (argv : List String) (directory : Path) (timeout : Value) :
    Outcome × FileSystem :=
  Executor.runFor (execute s) h argv directory timeout

end SourceCheck
