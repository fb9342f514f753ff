import SourceCheck.StandIn.Shell.Options
import SourceCheck.StandIn.Shell.Reader

/-! # Running the text of a script

    A text is read line by line; the commands of a line are run before the next
    line is read, since they may change how it is read.

    Signals that reach a shell are noted and acted on between two commands.  What
    a shell was told to do on a signal, or at its end, is the text of a script.
-/

namespace SourceCheck.Shell

open SourceCheck SourceCheck.Text

/-- How a command is run. -/
structure Mode where
  /-- Its success is asked for, so that a failure does not end the script. -/
  isTested : Bool
  /-- The shell ends after it. -/
  isLast : Bool
  deriving DecidableEq, Repr

namespace Mode

def plain : Mode := ⟨false, false⟩

def tested : Mode := ⟨true, false⟩

/-- The mode for a part of a command after which more follows. -/
def inside (mode : Mode) : Mode := { mode with isLast := false }

end Mode

/-- What runs a command in a world. -/
abbrev Runner := Mode → Command → World → World

def runRow (run : Runner) (mode : Mode) : List Command → World → World
  | [], w => w
  | [command], w => if w.isRunning then run mode command w else w
  | command :: rest, w =>
    if w.isRunning then runRow run mode rest (run mode.inside command w) else w

/-! ## Lines -/

/-- How the lines of a text are run. -/
structure LineMode where
  /-- How their commands are run. -/
  mode : Mode
  /-- The lines are shown as they are read, if the shell was told so. -/
  isShown : Bool

/-- How many lines a text may have, those that come from aliases included. -/
def lineLimit : Nat := 1000000

def showLines (how : LineMode) (text : List Char) (length : Nat) (w : World) : World :=
  if how.isShown && w.hasOption "verbose" then w.write 2 (String.ofList (text.take length)) else w

/-- A reader that knows the words that stand for other texts, and numbers its own
    texts after those of the shell. -/
def Reader.forShell (r : Reader) (s : State) : Reader :=
  { r with aliases := s.aliases, documents := [], nextDocument := s.nextDocument }

/-- The lines from a reader are run; `status` is that of the last one. -/
def runLines (run : Runner) (how : LineMode) : Nat → Reader → Nat → World → World
  | 0, _, _, w => w.withFlow .halted
  | fuel + 1, r, status, w =>
    let r := r.forShell w.shell
    match r.nextLine? with
    | .error fault =>
      let w := showLines how r.rest r.rest.length w
      (w.atLine fault.line).fail fault.message
    | .ok (none, after) =>
      let w := showLines how r.rest (r.left - after.left) w
      w.withStatus status
    | .ok (some commands, after) =>
      let w := showLines how r.rest (r.left - after.left) w
      let w := w.mapShell fun s =>
        { s with
          documents := after.documents ++ s.documents
          nextDocument := after.nextDocument
          readLine := after.line }
      if commands.isEmpty then runLines run how fuel after status w
      else
        let isLast := how.mode.isLast && after.token == .ending
        let w := runRow run { how.mode with isLast := isLast } commands w
        if w.isRunning then runLines run how fuel after w.shell.status w else w

def runText (run : Runner) (how : LineMode) (text : String) (w : World) : World :=
  let line := w.shell.readLine
  (runLines run how lineLimit (.ofText text.toList 1) 0 w).mapShell ({ · with readLine := line })

/-- A text that belongs to a command is run as a script in the same shell. -/
def runInner (run : Runner) (mode : Mode) (text : String) (w : World) : World :=
  runText run ⟨mode, false⟩ text w

/-! ## Signals -/

def World.trap? (w : World) (signal : Nat) : Option String := w.shell.traps.lookup signal

def World.hasTraps (w : World) : Bool := w.shell.traps.any fun (_, action) => !action.isEmpty

/-- A signal reaches the shell: it is noted, or it has its effect at once. -/
def World.receive (signal : Nat) (w : World) : World :=
  let dies := if isDeadly signal then w.withFlow (.killed signal) else w
  if signal = 9 then dies
  else match w.trap? signal with
    | none => dies
    | some "" => w
    | some _ =>
      w.mapShell fun s =>
        { s with pending := if s.pending.contains signal then s.pending else signal :: s.pending }

/-- Signals that other processes sent reach the shell. -/
def World.collect (w : World) : World :=
  let pid := w.shell.pid
  match w.machine.signals.filter (·.1 == pid) with
  | [] => w
  | mine =>
    let w := w.mapMachine fun m => { m with signals := m.signals.filter (·.1 != pid) }
    mine.foldl (fun w (_, signal) => w.receive signal) w

/-- The action on a signal is run.  The status stays what it was, unless the
    action returns with one of its own. -/
def runTrap (run : Runner) (action : String) (w : World) : World :=
  let status := w.shell.status
  let before := w.shell.trapStatus
  let w := runInner run .plain action (w.mapShell ({ · with trapStatus := some status }))
  let w := w.mapShell ({ · with trapStatus := before })
  match w.flow with
  | .next | .leave _ | .again _ => w.withStatus status
  | _ => w

/-- The signals that were noted are acted on, smaller numbers first; an action may
    not start before another one has ended the script. -/
def actOnSignals (run : Runner) (w : World) : World :=
  let w := w.collect
  match w.shell.pending with
  | [] => w
  | pending =>
    (pending.mergeSort fun a b => a ≤ b).foldl (fun w signal =>
      if !w.isRunning then w
      else
        let w := w.mapShell fun s => { s with pending := s.pending.filter (· != signal) }
        match w.trap? signal with
        | some action => runTrap run action w
        | none => w) w

/-- A shell ends: what it was told to do at its end is done.  The status stays what
    it was, unless the action ends the shell itself. -/
def endShell (run : Runner) (w : World) : World :=
  match w.flow with
  | .halted => w
  | .killed _ => w
  | _ =>
    match w.trap? 0 with
    | none => w.withFlow .exit
    | some action =>
      let status := w.shell.status
      let w := w.mapShell fun s =>
        { s with traps := s.traps.filter (·.1 != 0), trapStatus := some status }
      let w := runInner run .plain action (w.withFlow .next)
      match w.flow with
      | .halted | .killed _ | .exit => w
      | .failed => w.withFlow .exit
      | _ => (w.withStatus status).withFlow .exit

/-! ## Shells inside shells -/

def listsTraps : List Command → Bool
  | [.simple _ _ (word :: _) _] =>
    word.filterMap (fun
      | .char c _ => some c
      | _ => none) == "trap".toList && word.length == 4
  | _ => false

/-- A world for a process that is started from a shell to run some commands. -/
def World.fork (commands : List Command) (w : World) : World :=
  let (pid, w) := w.newId
  w.mapShell fun s =>
    let (ignored, handled) := s.traps.partition fun (_, action) => action.isEmpty
    { s with
      pid := pid
      ancestors := s.pid :: s.ancestors
      jobs := []
      traps := ignored
      formerTraps := if listsTraps commands then handled else []
      pending := []
      trapStatus := none }

def deathText (signal : Nat) : String :=
  ([(1, "Hangup"), (3, "Quit"), (4, "Illegal instruction"), (5, "Trace/breakpoint trap"),
    (6, "Aborted"), (7, "Bus error"), (8, "Floating point exception"), (9, "Killed"),
    (10, "User defined signal 1"), (11, "Segmentation fault"), (12, "User defined signal 2"),
    (14, "Alarm clock"), (15, "Terminated"), (16, "Stack fault"), (24, "CPU time limit exceeded"),
    (25, "File size limit exceeded"), (26, "Virtual timer expired"),
    (27, "Profiling timer expired"), (29, "I/O possible"), (30, "Power failure"),
    (31, "Bad system call")].lookup signal).getD ""

/-- A shell goes on after a process it waited for. -/
def World.resume (parent child : World) : World :=
  let w := { parent with machine := child.machine }
  match child.flow with
  | .halted => w.withFlow .halted
  | .killed signal =>
    let w := (w.waitUntil child.shell.clock).withStatus (128 + signal)
    if (deathText signal).isEmpty then w else w.write 2 (deathText signal ++ "\n")
  | _ => (w.waitUntil child.shell.clock).withStatus (child.shell.status % 256)

end SourceCheck.Shell
