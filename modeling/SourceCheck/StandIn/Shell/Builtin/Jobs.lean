import SourceCheck.StandIn.Shell.Builtin.Basic

/-! # Commands on processes

    Signals are sent and handled, and processes left behind are waited for.
-/

namespace SourceCheck.Shell

open SourceCheck SourceCheck.Text

namespace Builtin

/-! ## Traps -/

def listTraps (w : World) : World :=
  let traps := w.shell.traps ++ w.shell.formerTraps
  let lines := (List.range 65).filterMap fun signal =>
    (traps.lookup signal).map fun action =>
      "trap -- " ++ singleQuoted action ++ " " ++ signalName signal ++ "\n"
  (w.print (World.concatenated lines)).withStatus 0

/-- The shell does something on a signal, or what is usual. -/
def setTrap (action : Option String) (signal : Nat) (w : World) : World :=
  w.mapShell fun s =>
    let others := s.traps.filter (·.1 != signal)
    { s with traps := match action with
        | some action => (signal, action) :: others
        | none => others }

/-- Something is done on some signals, up to one there is not. -/
def setTraps (action : Option String) : List String → World → World
  | [], w => w.withStatus 0
  | name :: rest, w =>
    match signalNumber? name with
    | none => (w.complain (name ++ ": bad trap")).withStatus 1
    | some signal => setTraps action rest (setTrap action signal w)

def isSignalNumber (s : String) : Bool :=
  s.toList.all isDigitChar && (signalNumber? s).isSome && !s.isEmpty

/-- Tells what to do on signals, or lists it. -/
def trap : Builtin := fun _ _ args =>
  withArguments args fun args w =>
    match args with
    | [] => listTraps w
    | action :: signals =>
      let w := w.mapShell ({ · with formerTraps := [] })
      if signals.isEmpty || isSignalNumber action then setTraps none args w
      else setTraps (if action = "-" then none else some action) signals w

/-! ## Signals -/

/-- The number of a signal that is sent, given by number or name. -/
def sentSignal? (s : String) : Option Nat :=
  match signalNumber? s with
  | some 0 => if isSignalNumber s then some 0 else none
  | n => n

def signalAll (signal : Nat) (w : World) : World :=
  let w := w.machine.jobs.foldl (fun w j => w.endJob j (128 + signal)) w
  let w := w.mapMachine fun m =>
    { m with signals := m.signals ++ w.shell.ancestors.map (·, signal) }
  w.receive signal

def noProcess (w : World) : World := (w.complain "No such process\n").withStatus 1

def signalOne (signal pid : Nat) (w : World) : World :=
  if pid = w.shell.pid then if signal = 0 then w else w.receive signal
  else if w.shell.ancestors.contains pid then
    if signal = 0 then w else w.mapMachine fun m => { m with signals := m.signals ++ [(pid, signal)] }
  else match w.machine.jobs.find? (·.pid == pid) with
    | none => noProcess w
    | some j =>
      if j.ending ≤ w.shell.clock && !w.shell.jobs.contains pid then noProcess w
      else if isDeadly signal then w.endJob j (128 + signal)
      else w

/-- A signal is sent to what an argument names: a process, the processes of a
    group, or a process left behind by its place among those. -/
def signalNamed (signal : Nat) (target : String) (w : World) : World :=
  match target.toList with
  | '%' :: _ => noProcess w
  | '-' :: digits =>
    withCount (String.ofList digits) (fun n w =>
      if n = 0 ∨ w.shell.ancestors.getLast? = some n ∨ (w.shell.ancestors.isEmpty ∧ n = w.shell.pid)
      then signalAll signal w else noProcess w) w
  | _ => withCount target (fun n w => if n = 0 then signalAll signal w else signalOne signal n w) w

/-- How the command that sends signals is used. -/
def killUsage : String :=
  "Usage: kill [-s sigspec | -signum | -sigspec] [pid | job]... or\nkill -l [exitstatus]"

def listSignals (args : List String) (w : World) : World :=
  match args with
  | [] =>
    let names := (List.range 65).map fun n => if n = 0 then "0" else signalName n
    (w.print (World.concatenated (names.map (· ++ "\n")))).withStatus 0
  | a :: _ =>
    withCount a (fun n w =>
      let signal := if 128 < n then n - 128 else n
      if 0 < signal ∧ signal ≤ 64 then (w.print (signalName signal ++ "\n")).withStatus 0
      else w.fail ("invalid signal number or exit status: " ++ a)) w

def sendAll (signal : Nat) (targets : List String) (w : World) : World :=
  if targets.isEmpty then w.fail killUsage
  else targets.foldl (fun w target => if w.isRunning then signalNamed signal target w else w)
    (w.withStatus 0)

/-- Ends or signals processes. -/
def kill : Builtin := fun _ _ args w =>
  let direct := args.head?.bind fun a =>
    match a.toList with
    | '-' :: name => sentSignal? (String.ofList name)
    | _ => none
  match direct with
  | some signal => sendAll signal (args.drop 1) w
  | none =>
    withOptions [('l', false), ('s', true)] args (fun options targets w =>
      let names := options.filter (·.1 == 's')
      match names.find? fun (_, name) => (sentSignal? name).isNone with
      | some (_, name) => w.fail ("invalid signal number or name: " ++ name)
      | none =>
        let signal := names.getLast?.bind fun (_, name) => sentSignal? name
        if options.any (·.1 == 'l') then
          if signal.isSome then w.fail killUsage else listSignals targets w
        else sendAll (signal.getD 15) targets w) w

/-! ## Waiting -/

/-- A process left behind by this shell. -/
def ownJob? (w : World) (pid : Nat) : Option Job :=
  if w.shell.jobs.contains pid then w.machine.jobs.find? (·.pid == pid) else none

/-- The number of the process left behind that an argument names by its place, if
    it is one. -/
def placedJob? (w : World) (place : String) : Option Nat :=
  match place.toList with
  | ['%'] => w.shell.jobs.head?
  | ['%', '%'] => w.shell.jobs.head?
  | ['%', '+'] => w.shell.jobs.head?
  | ['%', '-'] => (w.shell.jobs.drop 1).head?
  | '%' :: digits =>
    (numberIn 10 digits).bind fun n => if n = 0 then none else w.shell.jobs.reverse[n - 1]?
  | _ => none

/-- Waits for the processes left behind that some arguments name; `status` is that
    of the last one there was. -/
def waitEach : List String → Nat → World → World
  | [], status, w => w.withStatus status
  | a :: rest, status, w =>
    let waitFor := fun (pid : Nat) (w : World) =>
      match ownJob? w pid with
      | none => waitEach rest status w
      | some j =>
        let w := w.waitUntil j.ending
        if w.isRunning then waitEach rest j.status w else w
    if startsWith a "%" then
      match placedJob? w a with
      | some pid => waitFor pid w
      | none => w.fail ("No such job: " ++ a)
    else match count? a with
      | some pid => waitFor pid w
      | none => w.fail ("Illegal number: " ++ a)

/-- Waits for processes left behind. -/
def wait : Builtin := fun _ _ args =>
  withArguments args fun args w =>
    if args.isEmpty then
      (w.shell.jobs.foldl (fun w pid =>
        match ownJob? w pid with
        | some j => w.waitUntil j.ending
        | none => w) w).withStatus 0
    else waitEach args 127 w

/-- What is told of a process left behind. -/
def jobState (w : World) (j : Job) : String :=
  if w.shell.clock < j.ending then "Running"
  else if j.status = 0 then "Done"
  else if 128 < j.status then deathText (j.status - 128)
  else "Done(" ++ Number.natText j.status ++ ")"

/-- Lists the processes left behind, the last one first; those that have ended are
    forgotten. -/
def jobs : Builtin := fun _ _ args =>
  withOptions [('l', false), ('p', false)] args fun options _ w =>
    let own := w.shell.jobs.filterMap (ownJob? w)
    let lines := own.zipIdx.map fun (j, i) =>
      if options.any (·.1 == 'p') then Number.natText j.pid ++ "\n"
      else
        let mark := if i = 0 then " + " else if i = 1 then " - " else "   "
        let shown := "[" ++ Number.natText (own.length - i) ++ "]" ++ mark
          ++ (if options.any (·.1 == 'l') then Number.natText j.pid ++ " " else "") ++ jobState w j
        shown ++ String.ofList (List.replicate (max 1 (33 - shown.length)) ' ') ++ "\n"
    let running := own.filter fun j => w.shell.clock < j.ending
    let w := w.print (World.concatenated lines)
    (if options.any (·.1 == 'p') then w
      else w.mapShell ({ · with jobs := running.map (·.pid) })).withStatus 0

end Builtin

end SourceCheck.Shell
