import SourceCheck.Host.Basic
import SourceCheck.StandIn.Shell.Octets
import SourceCheck.StandIn.Shell.Syntax
import SourceCheck.Text.Field
import SourceCheck.Text.Radix

/-! # The world of a script

    A script runs in a process with its own clock, which starts at zero and counts
    microseconds.  What processes write to a pipe is kept as events with the time
    of each.  Processes that run side by side are followed one after the other,
    each with its own clock; their events are put in order at the end.
-/

namespace SourceCheck.Shell

open SourceCheck SourceCheck.Text

/-! ## Channels -/

/-- Where a descriptor leads. -/
inductive Channel where
  | pipe (id : Nat)
  | input (id : Nat)
  | file (handle : Nat)
  /-- From a text that is read up and to a place in an open file. -/
  | both (id handle : Nat)
  | null
  | zeros
  deriving DecidableEq, Repr

/-- The pipe that takes the standard output of the whole run. -/
def outputPipe : Nat := 1

def errorPipe : Nat := 2

/-- A text written to a pipe at a time. -/
structure Event where
  time : Nat
  pipe : Nat
  source : Nat
  text : String
  deriving Repr

/-- A text that is read up. -/
structure Input where
  id : Nat
  left : List Char
  ending : Nat
  /-- A program that reads too much of it can give the rest back. -/
  rewinds : Bool
  deriving Repr

/-- A file that is open for writing. -/
structure Handle where
  id : Nat
  place : Place
  /-- How many octets of the file stand before the next one written. -/
  offset : Nat
  /-- What is written goes to the end of the file. -/
  atEnd : Bool
  deriving Repr

/-! ## Parts of the world -/

/-- A process left behind that holds an output pipe of the run. -/
structure Holder where
  pid : Nat
  ending : Nat
  deriving Repr

/-- A process left behind. -/
structure Job where
  pid : Nat
  ending : Nat
  status : Nat
  /-- The first number after those of its own processes. -/
  beyond : Nat
  deriving Repr

/-- What all processes share. -/
structure Machine where
  files : FileSystem
  changes : List (Place × Nat)
  events : List Event
  inputs : List Input
  /-- The files that are open for writing. -/
  handles : List Handle
  /-- The next number for a process, a pipe, an input or a handle. -/
  fresh : Nat
  /-- The processes left behind that hold an output pipe of the run. -/
  holders : List Holder
  /-- The processes left behind. -/
  jobs : List Job
  /-- When the run is ended from outside. -/
  limit : Option Nat
  /-- Signals that were sent and not yet taken, each with the number of the process
      it was sent to. -/
  signals : List (Nat × Nat)
  deriving Inhabited

/-- A variable of a shell. -/
structure Variable where
  name : String
  value : Option String
  /-- Programs get to see it. -/
  exported : Bool
  readOnly : Bool
  /-- It keeps its marks when it loses its value. -/
  fixed : Bool
  deriving Repr, Inhabited

/-- What gets back its old state when a function or a command ends. -/
inductive Kept where
  | variable (name : String) (old : Option Variable)
  | options (names : List String)

/-- How far the arguments were searched for options. -/
structure OptionPlace where
  next : Nat
  /-- How many characters of the argument before it were used up, if it has more. -/
  used : Option Nat
  deriving Repr, Inhabited

def OptionPlace.start : OptionPlace := ⟨1, none⟩

/-- What a shell holds while it runs. -/
structure State where
  pid : Nat
  /-- The process number of the main shell. -/
  mainPid : Nat
  /-- The process numbers of those that started it, the nearest first. -/
  ancestors : List Nat
  name : String
  arguments : List String
  /-- How far the arguments were searched for options. -/
  optionPlace : OptionPlace
  cwd : Place
  /-- The path by which the working directory was entered. -/
  directory : String
  /-- The bits that new files do not get. -/
  mask : Nat
  bindings : List Variable
  functions : List (String × Command)
  /-- The texts in the script that redirections read, by their numbers. -/
  documents : List (Nat × List Part)
  nextDocument : Nat
  aliases : List (String × String)
  /-- Names of programs that were looked up. -/
  tracked : List String
  channels : List (Nat × Channel)
  status : Nat
  /-- The status of the last script whose output was put into the command. -/
  outputStatus : Nat
  clock : Nat
  /-- The numbers of the processes it left behind, the last one first. -/
  jobs : List Nat
  /-- The process left behind last, perhaps by the shell it came from. -/
  lastJob : Option Nat
  /-- What to do on signals; zero stands for the end. -/
  traps : List (Nat × String)
  /-- What the shell it came from would do on signals. -/
  formerTraps : List (Nat × String)
  /-- The status before the action on a signal that is being run. -/
  trapStatus : Option Nat
  /-- Signals that came and were not yet acted on. -/
  pending : List Nat
  options : List String
  /-- How many loops are being run in the function. -/
  loops : Nat
  /-- What gets back its old state at the end of each function and command that
      is being run, the innermost first. -/
  locals : List (List Kept)
  /-- The line of the command that is being run. -/
  line : Nat
  readLine : Nat
  /-- The command of the shell that is being run. -/
  command : Option String
  deriving Inhabited

/-- How a script goes on. -/
inductive Flow where
  | next
  | exit
  /-- It has ended because something failed. -/
  | failed
  | leave (loops : Nat)
  /-- With the next turn of the last of some loops. -/
  | again (loops : Nat)
  | back
  | killed (signal : Nat)
  /-- It was ended from outside, or it never ends. -/
  | halted
  deriving DecidableEq, Repr, Inhabited

/-- A shell in its world. -/
structure World where
  machine : Machine
  shell : State
  flow : Flow
  deriving Inhabited

def isNameChar (c : Char) : Bool :=
  ('a' ≤ c && c ≤ 'z') || ('A' ≤ c && c ≤ 'Z') || ('0' ≤ c && c ≤ '9') || c == '_'

def isDigitChar (c : Char) : Bool := '0' ≤ c && c ≤ '9'

def isName (s : List Char) : Bool :=
  match s with
  | [] => false
  | c :: _ => !isDigitChar c && s.all isNameChar

namespace World

/-! ## Small changes -/

def mapShell (f : State → State) (w : World) : World := { w with shell := f w.shell }

def mapMachine (f : Machine → Machine) (w : World) : World := { w with machine := f w.machine }

def withStatus (status : Nat) (w : World) : World := w.mapShell ({ · with status := status })

/-- The script goes on in another way. -/
def withFlow (flow : Flow) (w : World) : World := { w with flow := flow }

def isRunning (w : World) : Bool := w.flow == .next

/-- The commands that follow belong to a line of the script. -/
def atLine (line : Nat) (w : World) : World := w.mapShell ({ · with line := line })

/-- The clock is set forward to a time; the run halts if its limit is passed. -/
def waitUntil (time : Nat) (w : World) : World :=
  let w := w.mapShell fun s => { s with clock := max s.clock time }
  match w.machine.limit with
  | some limit => if limit < w.shell.clock then w.withFlow .halted else w
  | none => w

/-- A new number for a process, a pipe, an input or a handle. -/
def newId (w : World) : Nat × World :=
  (w.machine.fresh, w.mapMachine fun m => { m with fresh := m.fresh + 1 })

def hasOption (name : String) (w : World) : Bool := w.shell.options.contains name

def setOption (name : String) (on : Bool) (w : World) : World :=
  w.mapShell fun s =>
    let others := s.options.filter (· != name)
    { s with options := if on then name :: others else others }

/-! ## Channels -/

def channel? (w : World) (descriptor : Nat) : Option Channel := w.shell.channels.lookup descriptor

def setEntry {α : Type} (key : Nat) (a : α) (entries : List (Nat × α)) : List (Nat × α) :=
  (key, a) :: entries.filter (·.1 != key)

def setChannel (descriptor : Nat) (c : Channel) (w : World) : World :=
  w.mapShell fun s => { s with channels := setEntry descriptor c s.channels }

def closeChannel (descriptor : Nat) (w : World) : World :=
  w.mapShell fun s => { s with channels := s.channels.filter (·.1 != descriptor) }

/-- Lets a descriptor lead where it led before. -/
def restoreChannel (descriptor : Nat) : Option Channel → World → World
  | some c, w => w.setChannel descriptor c
  | none, w => w.closeChannel descriptor

/-! ## Time -/

def startTime : Nat := 1767225600000000

def now (w : World) : Nat := startTime + w.shell.clock

/-- When the file at a place was changed; what was there before the run is a second
    older than the run. -/
def changedAt (w : World) (place : Place) : Nat :=
  (w.machine.changes.lookup place).getD (startTime - 1000000)

def setChanged (place : Place) (time : Nat) (w : World) : World :=
  w.mapMachine fun m => { m with changes := (place, time) :: m.changes.filter (·.1 != place) }

/-! ## Writing -/

def putEntry (place : Place) (e : Entry) (w : World) : World :=
  (w.mapMachine fun m => { m with files := m.files.put place e }).setChanged place w.now

def overwritten (content : List UInt8) (offset : Nat) (octets : List UInt8) : List UInt8 :=
  if offset = content.length then content ++ octets
  else content.take offset ++ List.replicate (offset - content.length) 0 ++ octets
    ++ content.drop (offset + octets.length)

def writeHandle (id : Nat) (s : String) (w : World) : World :=
  match w.machine.handles.find? (·.id == id) with
  | none => w
  | some h =>
    match w.machine.files.entry? h.place with
    | some (.file content mode) =>
      let octets := toOctets s
      let offset := if h.atEnd then content.length else h.offset
      let w := w.putEntry h.place (.file (overwritten content offset octets) mode)
      w.mapMachine fun m =>
        { m with handles := m.handles.map fun g =>
            if g.id == id then { g with offset := offset + octets.length } else g }
    | _ => w

def write (descriptor : Nat) (s : String) (w : World) : World :=
  if s.isEmpty then w
  else match w.channel? descriptor with
    | some (.pipe id) =>
      w.mapMachine fun m => { m with events := ⟨w.shell.clock, id, w.shell.pid, s⟩ :: m.events }
    | some (.file handle) => w.writeHandle handle s
    | some (.both _ handle) => w.writeHandle handle s
    | _ => w

def print (s : String) (w : World) : World := w.write 1 s

/-- Writes a message about the command that is being run. -/
def complain (message : String) (w : World) : World :=
  let s := w.shell
  w.write 2 (s.name ++ ": " ++ Number.natText s.line ++ ": "
    ++ (match s.command with
      | some name => name ++ ": "
      | none => "")
    ++ message ++ "\n")

def fail (message : String) (w : World) : World :=
  ((w.complain message).withStatus 2).withFlow .failed

/-! ## Variables -/

def binding? (w : World) (name : String) : Option Variable :=
  w.shell.bindings.find? (·.name == name)

def named? (w : World) (name : String) : Option String := (w.binding? name).bind (·.value)

/-- The number that a text of digits writes, or one if it writes zero or none. -/
def positiveNumber (s : String) : Nat :=
  if s.toList.all isDigitChar then
    max 1 (decimalValue s.toList)
  else 1

/-- What else happens when a variable is set: the search for options starts anew,
    or programs are looked up anew. -/
def noticing (name : String) (value : Option String) (w : World) : World :=
  if name = "OPTIND" then
    w.mapShell ({ · with optionPlace := ⟨positiveNumber (value.getD ""), none⟩ })
  else if name = "PATH" then w.mapShell ({ · with tracked := [] })
  else w

/-- Sets a variable or takes its value away, and adds marks to it.  Read-only
    variables stay as they are, and the command fails. -/
def store (v : Variable) (w : World) : World :=
  let exported := v.exported || w.hasOption "allexport"
  match w.binding? v.name with
  | some old =>
    if old.readOnly then w.fail (v.name ++ ": is read only")
    else
      let w := w.noticing v.name v.value
      let isGone := v.value.isNone && !exported && !v.readOnly && !v.fixed && !old.fixed
      let new : Variable :=
        ⟨v.name, v.value, old.exported || exported, v.readOnly, old.fixed || v.fixed⟩
      w.mapShell fun s =>
        { s with bindings :=
            if isGone then s.bindings.filter (·.name != v.name)
            else s.bindings.map fun o => if o.name == v.name then new else o }
  | none =>
    if v.value.isNone && !exported && !v.readOnly && !v.fixed then w
    else
      (w.noticing v.name v.value).mapShell fun s =>
        { s with bindings := s.bindings ++ [{ v with exported := exported }] }

def setVariable (name value : String) (w : World) : World :=
  w.store ⟨name, some value, false, false, false⟩

/-- Sets a variable that programs get to see. -/
def setExported (name value : String) (w : World) : World :=
  w.store ⟨name, some value, true, false, false⟩

/-- Sets a variable with marks, or takes its value away; the command fails if that
    is no name. -/
def assign (v : Variable) (w : World) : World :=
  if isName v.name.toList then w.store v else w.fail (v.name ++ ": bad variable name")

/-- Gives a variable back the state it had. -/
def restoreVariable (name : String) (old : Option Variable) (w : World) : World :=
  w.mapShell fun s =>
    match old with
    | none => { s with bindings := s.bindings.filter (·.name != name) }
    | some v =>
      if s.bindings.any (·.name == name) then
        { s with bindings := s.bindings.map fun o => if o.name == name then v else o }
      else { s with bindings := s.bindings ++ [v] }

/-- Something gets back its old state when what is being run ends. -/
def keep (k : Kept) (w : World) : World :=
  w.mapShell fun s =>
    { s with locals := match s.locals with
        | top :: rest => (k :: top) :: rest
        | [] => [[k]] }

/-- A variable keeps its state for the end of what is being run; until then it may
    have another value and further marks. -/
def makeLocal (name : String) (value : Option String) (exported : Bool) (w : World) : World :=
  let old := w.binding? name
  let w := w.keep (.variable name old)
  match old with
  | none => w.store ⟨name, value, exported, false, true⟩
  | some v =>
    let w := w.restoreVariable name (some { v with fixed := true })
    if value.isSome then w.store ⟨name, value, exported, false, true⟩ else w

/-- What was kept gets back its old state. -/
def release (w : World) : Kept → World
  | .variable name old => w.restoreVariable name old
  | .options names => w.mapShell ({ · with options := names })

/-- What is done in between may keep things, which get back their old state at its
    end. -/
def withLocals (body : World → World) (w : World) : World :=
  let outer := w.shell.locals
  let w := body (w.mapShell ({ · with locals := [] :: outer }))
  let kept := w.shell.locals.take (w.shell.locals.length - outer.length)
  (kept.flatten.foldl release w).mapShell ({ · with locals := outer })

/-- The order in which a table of names gives them back: by the names' octets,
    the first of which counts sixteenfold besides, in a table of some rows. -/
def tableRow (rows : Nat) (name : String) : Nat :=
  match name.toList with
  | [] => 0
  | c :: _ => (name.toList.foldl (fun n d => n + d.toNat) (c.toNat * 16)) % rows

def inTableOrder {α : Type} (rows : Nat) (name : α → String) (entries : List α) : List α :=
  (List.range rows).flatMap fun row => entries.filter fun a => tableRow rows (name a) == row

def variableRows : Nat := 39

/-- The variables that programs get to see, with their values. -/
def environment (w : World) : List (String × String) :=
  (inTableOrder variableRows (·.name) w.shell.bindings).filterMap fun v =>
    if v.exported then v.value.map fun value => (v.name, value) else none

/-- The characters at which values are cut, if no others are chosen. -/
def plainSeparators : String := " \t\n"

def separators (w : World) : List Char := ((w.named? "IFS").getD plainSeparators).toList

/-! ## Reading -/

def addInput (left : List Char) (ending : Nat) (rewinds : Bool) (w : World) : Nat × World :=
  let (id, w) := w.newId
  (id, w.mapMachine fun m => { m with inputs := ⟨id, left, ending, rewinds⟩ :: m.inputs })

def addHandle (place : Place) (atEnd : Bool) (w : World) : Nat × World :=
  let (id, w) := w.newId
  (id, w.mapMachine fun m => { m with handles := ⟨id, place, 0, atEnd⟩ :: m.handles })

def standardInput? (w : World) : Option Input :=
  match w.channel? 0 with
  | some (.input id) => w.machine.inputs.find? (·.id == id)
  | some (.both id _) => w.machine.inputs.find? (·.id == id)
  | _ => none

def setLeft (id : Nat) (left : List Char) (w : World) : World :=
  w.mapMachine fun m =>
    { m with inputs := m.inputs.map fun i => if i.id == id then { i with left := left } else i }

/-- All that is left of the standard input; the end is waited for. -/
def readAll (w : World) : List Char × World :=
  match w.standardInput? with
  | some i => (i.left, (w.setLeft i.id []).waitUntil i.ending)
  | none => ([], w)

/-- Gives back what was read of the standard input and is not needed, if the input
    allows that. -/
def giveBack (rest : List Char) (w : World) : World :=
  match w.standardInput? with
  | some i => if i.rewinds then w.setLeft i.id (rest ++ i.left) else w
  | none => w

/-! ## Events -/

/-- Events in order of time; those of one time stay in the order in which they
    came. -/
def inOrder (events : List Event) : List Event :=
  events.reverse.mergeSort fun a b => a.time ≤ b.time

def concatenated (texts : List String) : String :=
  String.ofList (texts.flatMap String.toList)

def written (pipe : Nat) (w : World) : String :=
  concatenated ((inOrder (w.machine.events.filter (·.pipe == pipe))).map (·.text))

def forget (pipe : Nat) (w : World) : World :=
  w.mapMachine fun m => { m with events := m.events.filter (·.pipe != pipe) }

/-- A process left behind is ended now, with all that it started: what they would
    have written later is not written. -/
def endJob (job : Job) (status : Nat) (w : World) : World :=
  let now := w.shell.clock
  w.mapMachine fun m =>
    { m with
      events := m.events.filter fun e =>
        e.source < job.pid || job.beyond ≤ e.source || e.time ≤ now
      holders := m.holders.map fun h =>
        if job.pid ≤ h.pid && h.pid < job.beyond then { h with ending := min h.ending now } else h
      jobs := m.jobs.map fun j =>
        if j.pid == job.pid && now < j.ending then { j with ending := now, status := status }
        else j }

def holdsOutput (w : World) : Bool :=
  w.shell.channels.any fun (_, c) => c == .pipe outputPipe || c == .pipe errorPipe

/-! ## Files -/

def pathText (s : String) : String := toText s

def directoryText (w : World) : String := ofText (placePath w.shell.cwd).text

def stat (w : World) (path : String) : Except SystemError Entry :=
  w.machine.files.stat w.shell.cwd (pathText path)

def readFile (w : World) (path : String) : Except SystemError String :=
  (w.machine.files.read w.shell.cwd (pathText path)).map ofOctets

def placeOf (w : World) (path : String) : Except SystemError FileSystem.Found :=
  w.machine.files.find w.shell.cwd true (pathText path)

/-- The place of a path; a link at its end is not followed. -/
def linkPlaceOf (w : World) (path : String) : Except SystemError FileSystem.Found :=
  w.machine.files.find w.shell.cwd false (pathText path)

def enter (w : World) (path : String) : Except SystemError Place :=
  w.machine.files.enter w.shell.cwd (pathText path)

def newMode (w : World) : Nat := 0o666 &&& (0o777 ^^^ (w.shell.mask % 0o1000))

def newFolderMode (w : World) : Nat := 0o777 ^^^ (w.shell.mask % 0o1000)

/-- Opens a file for writing, from its start or at its end; it is made if it is not
    there. -/
def openFile (atEnd : Bool) (keeps : Bool) (path : String) (w : World) :
    Except SystemError (Channel × World) :=
  if w.machine.files.namesFolder FileSystem.linkLimit w.shell.cwd (pathText path) then
    .error .isDirectory
  else match w.placeOf path with
  | .error e => .error e
  | .ok ⟨_, some (.directory _)⟩ => .error .isDirectory
  | .ok ⟨_, some (.device _)⟩ => .ok (.null, w)
  | .ok ⟨place, some (.file content mode)⟩ =>
    if !w.machine.files.allows .write (.file content mode) then .error .notPermitted
    else
      let (id, w) := w.addHandle place atEnd
      .ok (.file id, if keeps || atEnd then w else w.putEntry place (.file [] mode))
  | .ok ⟨place, e⟩ =>
    if e.isNone && !w.machine.files.mayAdd place then .error .notPermitted
    else
      let (id, w) := w.addHandle place atEnd
      .ok (.file id, w.putEntry place (.file [] w.newMode))

end World

/-- A separator that may stand several times between two words. -/
def isBlankSeparator (c : Char) : Bool := c == ' ' || c == '\t' || c == '\n'

/-- A text in single quotes; single quotes in it stand in double ones. -/
def singleQuotedWith : Nat → List Char → List Char
  | 0, _ => []
  | fuel + 1, s =>
    let before := s.takeWhile (· != '\'')
    let rest := s.dropWhile (· != '\'')
    let marks := rest.takeWhile (· == '\'')
    let after := rest.dropWhile (· == '\'')
    '\'' :: before ++ ['\'']
      ++ (if marks.isEmpty then [] else '"' :: marks ++ ['"'])
      ++ (if after.isEmpty then [] else singleQuotedWith fuel after)

/-- A text in single quotes; single quotes in it stand in double ones. -/
def singleQuoted (s : String) : String :=
  String.ofList (singleQuotedWith (s.length + 1) s.toList)

/-! ## Signals -/

def signalNames : List (String × Nat) := [
  ("EXIT", 0), ("HUP", 1), ("INT", 2), ("QUIT", 3), ("ILL", 4), ("TRAP", 5), ("ABRT", 6),
  ("BUS", 7), ("FPE", 8), ("KILL", 9), ("USR1", 10), ("SEGV", 11), ("USR2", 12), ("PIPE", 13),
  ("ALRM", 14), ("TERM", 15), ("STKFLT", 16), ("CHLD", 17), ("CONT", 18), ("STOP", 19),
  ("TSTP", 20), ("TTIN", 21), ("TTOU", 22), ("URG", 23), ("XCPU", 24), ("XFSZ", 25),
  ("VTALRM", 26), ("PROF", 27), ("WINCH", 28), ("IO", 29), ("PWR", 30), ("SYS", 31), ("32", 32),
  ("33", 33), ("RTMIN", 34), ("RTMIN+1", 35), ("RTMIN+2", 36), ("RTMIN+3", 37), ("RTMIN+4", 38),
  ("RTMIN+5", 39), ("RTMIN+6", 40), ("RTMIN+7", 41), ("RTMIN+8", 42), ("RTMIN+9", 43),
  ("RTMIN+10", 44), ("RTMIN+11", 45), ("RTMIN+12", 46), ("RTMIN+13", 47), ("RTMIN+14", 48),
  ("RTMIN+15", 49), ("RTMAX-14", 50), ("RTMAX-13", 51), ("RTMAX-12", 52), ("RTMAX-11", 53),
  ("RTMAX-10", 54), ("RTMAX-9", 55), ("RTMAX-8", 56), ("RTMAX-7", 57), ("RTMAX-6", 58),
  ("RTMAX-5", 59), ("RTMAX-4", 60), ("RTMAX-3", 61), ("RTMAX-2", 62), ("RTMAX-1", 63),
  ("RTMAX", 64)]

def signalName (signal : Nat) : String :=
  ((signalNames.find? (·.2 == signal)).map (·.1)).getD ""

def signalNumber? (s : String) : Option Nat :=
  let cs := s.toList
  if !cs.isEmpty && cs.all isDigitChar then
    let n := decimalValue cs
    if n ≤ 64 then some n else none
  else signalNames.lookup (String.ofList (capitals cs))

/-- Signals that end a process unless it handles them. -/
def isDeadly (signal : Nat) : Bool :=
  signal != 0 && signal != 17 && signal != 18 && signal != 23 && signal != 28

end SourceCheck.Shell
