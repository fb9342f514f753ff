import SourceCheck.StandIn.Shell.Simple
import SourceCheck.Tool.Process

/-! # Running scripts

    A command is run in a world and leaves another one.  Every command takes a
    little time on the clock, so that a script that never ends passes any limit;
    a run is ended from outside when its limit is passed.

    `step run` runs a command with the help of `run` for the commands inside it;
    `runCommand` puts steps inside steps, as deep as commands may stand in one
    another.
-/

namespace SourceCheck.Shell

open SourceCheck SourceCheck.Text

def commandTime : Nat := 5

/-! ## Shells for parts of a script -/

def redirectForGood (substitute : Substitution) (redirects : List Prepared) (w : World) : World :=
  match makeAll substitute redirects w with
  | (w, true) => w
  | (w, false) => if w.isRunning then w.withFlow .failed else w

/-- Commands run in a shell of their own, or in this one if it ends after them. -/
def inSubshell (run : Runner) (mode : Mode) (line : Nat) (redirects : List Redirect)
    (commands : List Command) (w : World) : World :=
  let substitute := outputOf run
  let (prepared, w) := prepareAll substitute redirects (w.atLine line)
  if !w.isRunning then w
  else
    let go := fun (w : World) =>
      runRow run ⟨mode.isTested, true⟩ commands (redirectForGood substitute prepared w)
    if mode.isLast && !w.hasTraps then
      let w := go w
      if w.isRunning then w.withFlow .exit else w
    else w.resume (endShell run (go (w.fork commands)))

/-- Commands run side by side, each reading what the one before writes; they start
    at one time, and all are waited for. -/
def runPipeline (run : Runner) (mode : Mode) (started : Nat) :
    Option Channel → List Command → World → World
  | _, [], w => w
  | input, command :: rest, w =>
    let (pipe, w) := w.newId
    let child := (w.fork [command]).mapShell fun s => { s with clock := started }
    let child := match input with
      | some channel => child.setChannel 0 channel
      | none => child
    let child := if rest.isEmpty then child else child.setChannel 1 (.pipe pipe)
    let child := endShell run (run ⟨mode.isTested, true⟩ command child)
    let output := child.written pipe
    let w := w.resume (child.forget pipe)
    let (id, w) := w.addInput output.toList child.shell.clock false
    if w.isRunning then runPipeline run mode started (some (.input id)) rest w else w

def runBehind (run : Runner) (command : Command) (w : World) : World :=
  let child := endShell run
    (run ⟨false, true⟩ command ((w.fork [command]).setChannel 0 .null))
  let pid := child.shell.pid
  let ending := match child.flow, w.machine.limit with
    | .halted, some limit => limit + 1
    | _, _ => child.shell.clock
  let status := match child.flow with
    | .killed signal => 128 + signal
    | _ => child.shell.status % 256
  let w := { w with machine := child.machine }
  let w := if child.flow == .halted && w.machine.limit.isNone then w.withFlow .halted else w
  let w := if w.holdsOutput then
      w.mapMachine fun m => { m with holders := ⟨pid, ending⟩ :: m.holders }
    else w
  let job : Job := ⟨pid, ending, status, w.machine.fresh⟩
  let w := w.mapMachine fun m => { m with jobs := job :: m.jobs }
  (w.mapShell fun s => { s with jobs := pid :: s.jobs, lastJob := some pid }).withStatus 0

/-! ## Commands built from others -/

/-- How a loop goes on after a part of a turn. -/
inductive Turn where
  | goesOn
  | skips
  | ends
  deriving DecidableEq, Repr

/-- How a loop goes on after a part of a turn, and the world in which it does. -/
def turnOf (w : World) : Turn × World :=
  match w.flow with
  | .next => (.goesOn, w)
  | .leave n => (.ends, w.withFlow (if n ≤ 1 then .next else .leave (n - 1)))
  | .again n => if n ≤ 1 then (.skips, w.withFlow .next) else (.ends, w.withFlow (.again (n - 1)))
  | _ => (.ends, w)

/-- The flow leaves the script or the shell, not only a loop or a function. -/
def isThrown (w : World) : Bool :=
  match w.flow with
  | .next | .leave _ | .again _ | .back => false
  | _ => true

/-- Turns are taken, in which commands may leave the loop. -/
def inLoop (turns : World → World) (w : World) : World :=
  let loops := w.shell.loops
  (turns (w.mapShell ({ · with loops := loops + 1 }))).mapShell ({ · with loops := loops })

/-- How many turns a loop takes at most before it counts as one that never ends. -/
def turnLimit : Nat := 1000000

/-- A loop takes its turns; `status` is the status of the last one. -/
def runLoop (untilHolds : Bool) (condition body : World → World) : Nat → Nat → World → World
  | 0, _, w => w.withFlow .halted
  | turns + 1, status, w =>
    let w := condition (w.waitUntil (w.shell.clock + commandTime))
    if isThrown w then w
    else
      let status := if w.flow == .back then w.shell.status else status
      match turnOf w with
      | (.ends, w) => w.withStatus status
      | (.skips, w) => runLoop untilHolds condition body turns status w
      | (.goesOn, w) =>
        if (w.shell.status == 0) == untilHolds then w.withStatus status
        else
          let w := body w
          if isThrown w then w
          else match turnOf w with
            | (.ends, w) => w
            | (_, w) => runLoop untilHolds condition body turns w.shell.status w

/-- A loop takes a turn for each of some words. -/
def runEach (name : String) (body : World → World) : List String → World → World
  | [], w => w
  | word :: rest, w =>
    let w := w.setVariable name word
    if !w.isRunning then w
    else match turnOf (body w) with
      | (.ends, w) => w
      | (_, w) => runEach name body rest w

def runBranch (run : Runner) (mode : Mode) (condition body otherwise : List Command) (w : World) :
    World :=
  let w := runRow run .tested condition w
  if !w.isRunning then w
  else if w.shell.status = 0 then runRow run mode body w
  else if otherwise.isEmpty then w.withStatus 0
  else runRow run mode otherwise w

def matchesSome (substitute : Substitution) (s : String) :
    List (List Part) → World → Bool × World
  | [], w => (false, w)
  | pattern :: rest, w =>
    let (marks, w) := expandPattern substitute pattern w
    if !w.isRunning then (false, w)
    else if matchesPattern marks s.toList then (true, w)
    else matchesSome substitute s rest w

def runChoice (run : Runner) (mode : Mode) (s : String) :
    List (List (List Part) × List Command) → World → World
  | [], w => w.withStatus 0
  | (patterns, body) :: rest, w =>
    match matchesSome (outputOf run) s patterns w with
    | (true, w) => if body.isEmpty then w.withStatus 0 else runRow run mode body w
    | (false, w) => if w.isRunning then runChoice run mode s rest w else w

/-- A command runs under redirections, which end with it.  The second part of the
    result tells whether they could be made. -/
def underRedirects (run : Runner) (mode : Mode) (line : Nat) (body : Command)
    (redirects : List Redirect) (w : World) : World × Bool :=
  let substitute := outputOf run
  let (prepared, w) := prepareAll substitute redirects (w.atLine line)
  if !w.isRunning then (w, true)
  else
    let before := w
    let (w, made) := makeAll substitute prepared w
    let w := if made then run mode.inside body w else w
    (restoreAll prepared before w, made)

/-- A command is run, with `run` for the commands inside it; the second part of the
    result tells whether its failure may end the script. -/
def perform (run : Runner) (mode : Mode) (command : Command) (w : World) : World × Bool :=
  let substitute := outputOf run
  match command with
  | .simple line as ws rs => (runSimple run mode line as ws rs w, true)
  | .redirected line body rs =>
    let (w, made) := underRedirects run mode line body rs w
    (w, !made)
  | .row commands => (runRow run mode commands w, false)
  | .subshell line body rs => (inSubshell run mode line rs body w, true)
  | .branch condition body otherwise => (runBranch run mode condition body otherwise w, false)
  | .loop untilHolds condition body =>
    (inLoop (runLoop untilHolds (runRow run .tested condition) (runRow run mode.inside body)
      turnLimit 0) w, false)
  | .each line name words body =>
    let (words, w) := expandWords substitute words (w.atLine line)
    (if !w.isRunning then w
      else inLoop (runEach name (runRow run mode.inside body) words) (w.withStatus 0), false)
  | .choose line word arms =>
    let (s, w) := expandText substitute word (w.atLine line)
    (if w.isRunning then runChoice run mode s arms w else w, false)
  | .define name body =>
    ((w.mapShell fun s =>
      { s with
        functions := (name, body) :: s.functions.filter (·.1 != name)
        tracked := s.tracked.filter (· != name) }).withStatus 0, false)
  | .pipeline commands => (runPipeline run mode w.shell.clock none commands w, true)
  | .negate command =>
    let w := run .tested command w
    (if isThrown w then w else w.withStatus (if w.shell.status = 0 then 1 else 0), false)
  | .both first second =>
    let w := run .tested first w
    (if w.isRunning && w.shell.status == 0 then run mode second w else w, false)
  | .either first second =>
    let w := run .tested first w
    (if w.isRunning && w.shell.status != 0 then run mode second w else w, false)
  | .background command => (runBehind run command w, true)

/-- A command is run between two looks at the signals that came.  A failure ends
    the script if it was asked for and is not allowed here. -/
def step (run : Runner) (mode : Mode) (command : Command) (w : World) : World :=
  if w.hasOption "noexec" then w
  else
    let w := actOnSignals run w
    let w := w.waitUntil (w.shell.clock + commandTime)
    if !w.isRunning then w
    else
      let (w, counts) := perform run mode command w
      let isFailure := counts && w.isRunning && w.shell.status != 0 && !mode.isTested
      let w := if w.isRunning then actOnSignals run w else w
      if isFailure && w.isRunning && w.hasOption "errexit" then w.withFlow .exit else w

/-- A command is run; `depth` bounds how deep commands stand in one another.  A
    shell in which they stand deeper has no room left and is killed. -/
def runCommand : Nat → Mode → Command → World → World
  | 0, _, _, w => w.withFlow (.killed 11)
  | depth + 1, mode, command, w => step (runCommand depth) mode command w

/-- How deep commands may stand in one another. -/
def commandDepth : Nat := 12000

/-! ## Runs -/

/-- The bits that new files do not get, unless a script chooses others. -/
def usualMask : Nat := 0o022

def worldOf (h : Host) (limit : Option Nat) : World :=
  let shell : State :=
    { (default : State) with
      pid := 4000
      mainPid := 4000
      cwd := h.cwd
      mask := usualMask
      bindings := h.environment.map fun (name, value) =>
        ⟨ofText name, some (ofText value), true, false, false⟩
      channels := [(0, .null), (1, .pipe outputPipe), (2, .pipe errorPipe)]
      clock := startTime }
  let machine : Machine := { (default : Machine) with files := h.files, fresh := 5000, limit := limit }
  ⟨machine, shell, .next⟩

/-- The ending of a run whose main process ended, and the files after it.  The run
    lasts until its output is no longer held. -/
def endingOf (w : World) : Ending × FileSystem :=
  let ending := match w.flow with
    | .halted => .unfinished
    | flow =>
      let micros := w.machine.holders.foldl (fun time h => max time h.ending) w.shell.clock
      if w.machine.limit.any (· < micros) then .unfinished
      else
        let status : Int := match flow with
          | .killed signal => -(signal : Int)
          | _ => (w.shell.status % 256 : Nat)
        .finished status (toOctets (w.written outputPipe)) (toOctets (w.written errorPipe)) micros
  (ending, w.machine.files)

/-- Runs the file at a path as a process of a host, with all its arguments, for at
    most some microseconds.  The system refuses what is no program. -/
def runProcess : System := fun h limit path argv =>
  let path := ofText path
  let argv := argv.map ofText
  match programOf h.files h.cwd headDepth path argv with
  | .error e => .error e
  | .ok _ =>
    (runFile (runCommand commandDepth) replacementDepth path argv (worldOf h limit)).map endingOf

end SourceCheck.Shell
