import SourceCheck.StandIn.Shell.Script
import SourceCheck.StandIn.Utility.Table

/-! # Processes

    A process runs a program file.  A file that starts with a mark and a path is
    run by the program at that path; any other file that is no program of the
    system is refused, and a shell then reads it as a script.

    A shell that is started as a process sees the variables it was given, its
    arguments and its descriptors, and nothing else of the shell it came from.
-/

namespace SourceCheck.Shell

open SourceCheck SourceCheck.Text

/-! ## Finding programs -/

/-- How many octets of a file are looked at for the mark at its start. -/
def headLimit : Nat := 255

def isHeadBlank (c : Char) : Bool := c == ' ' || c == '\t'

def isHeadEnd (c : Char) : Bool := c == '\n' || c == Char.ofNat 0

/-- The program named on the first line of a script and the argument it gets, if
    the file starts with the mark.  The name must end within what is looked at; it
    is missing only where the line is ended by a line feed. -/
def readHead (content : List Char) : Option (String × List String) :=
  let seen := content.take headLimit
  match seen with
  | '#' :: '!' :: rest =>
    let line := rest.takeWhile (!isHeadEnd ·)
    let trimmed := ((line.reverse.dropWhile isHeadBlank).reverse).dropWhile isHeadBlank
    let name := trimmed.takeWhile (!isHeadBlank ·)
    let argument := (trimmed.dropWhile (!isHeadBlank ·)).dropWhile isHeadBlank
    let isCut := seen.length == headLimit && line.length == rest.length
      && !(line.dropWhile isHeadBlank).any isHeadBlank
    let isMissing := name.isEmpty && (rest.drop line.length).head? == some '\n'
    if isCut || isMissing then none
    else some (String.ofList name, if argument.isEmpty then [] else [String.ofList argument])
  | _ => none

/-- The program of the system that runs the file at a path, with all its arguments;
    `depth` bounds how many files may name one another. -/
def programOf (fs : FileSystem) (cwd : Place) :
    Nat → String → List String → Except SystemError (String × List String)
  | 0, _, _ => .error .linkLoop
  | depth + 1, path, argv =>
    match fs.stat cwd (toText path) with
    | .error e => .error e
    | .ok (.directory _) => .error .notPermitted
    | .ok (.device _) => .error .notPermitted
    | .ok (.link _) => .error .linkLoop
    | .ok (.program name) => .ok (name, argv)
    | .ok (.file content mode) =>
      if !fs.mayRun (.file content mode) then .error .notPermitted
      else match readHead ((content.take headLimit).map fun b => Char.ofNat b.toNat) with
        | none => .error .notExecutable
        | some (interpreter, argument) =>
          if interpreter.isEmpty then .error .notPermitted
          else programOf fs cwd depth interpreter (interpreter :: argument ++ path :: argv.drop 1)

/-- How many files may name one another as programs. -/
def headDepth : Nat := 5

def defaultSearchPath : String :=
  "/usr/local/sbin:/usr/local/bin:/usr/sbin:/usr/bin:/sbin:/bin"

def searchIn (w : World) (name : String) (blocked : Bool) :
    List String → Except SystemError String
  | [] => .error (if blocked then .notPermitted else .notFound)
  | directory :: rest =>
    let path := if directory.isEmpty then name else joinText directory name
    match w.stat path with
    | .ok e =>
      if !e.isDirectory && w.machine.files.mayRun e then .ok path else searchIn w name true rest
    | .error _ => searchIn w name blocked rest

def World.searchPath (w : World) : List String :=
  splitAt ':' ((w.named? "PATH").getD "")

/-- The directories in which a process looks for a program that it gives way to: the usual ones
    if nothing tells them. -/
def World.launchPath (w : World) : List String :=
  if (w.named? "PATH").isNone then ["/bin", "/usr/bin"] else w.searchPath

/-- The path of the program that a name stands for, found in some directories
    unless it is a path itself. -/
def findProgram (w : World) (directories : List String) (name : String) :
    Except SystemError String :=
  if holds name '/' then .ok name else searchIn w name false directories

/-! ## Shells -/

/-- The variables of a shell that has just started, as far as they do not come from
    its environment.  Where a table has several variables in a row, later ones
    come first. -/
def firstVariables : List Variable :=
  let plain := fun name value => (⟨name, some value, false, false, true⟩ : Variable)
  let absent := fun name => (⟨name, none, false, false, true⟩ : Variable)
  [plain "OPTIND" "1", plain "PS4" "+ ", plain "PS2" "> ", plain "PS1" "# ",
    plain "PATH" defaultSearchPath, absent "MAILPATH", absent "MAIL",
    plain "IFS" World.plainSeparators]

/-- The path of the working directory that a shell starts with: that of the
    environment if it leads there. -/
def World.firstDirectory (w : World) : String :=
  match w.named? "PWD" with
  | some path =>
    match w.placeOf path with
    | .ok ⟨place, some (.directory _)⟩ =>
      if startsWith path "/" && place == w.shell.cwd then path else w.directoryText
    | _ => w.directoryText
  | none => w.directoryText

/-- A process becomes a shell that has read nothing yet. -/
def World.startShell (name : String) (w : World) : World :=
  let given := w.environment.filter fun (name, _) => isName name.toList
  let parent := w.shell.ancestors.head?.getD 1
  let w := w.mapShell fun s =>
    { s with
      name := name
      mainPid := s.pid
      arguments := []
      optionPlace := .start
      bindings := firstVariables
      functions := []
      documents := []
      nextDocument := 0
      aliases := []
      tracked := []
      status := 0
      outputStatus := 0
      jobs := []
      lastJob := none
      traps := s.traps.filter fun (_, action) => action.isEmpty
      formerTraps := []
      pending := []
      trapStatus := none
      options := []
      loops := 0
      locals := []
      line := 0
      readLine := 1
      command := none }
  let w := given.foldl (fun w (name, value) => w.setExported name value) w
  let w := (w.setVariable "IFS" World.plainSeparators).setVariable "OPTIND" "1"
  let w := w.setVariable "PPID" (Number.natText parent)
  let directory := w.firstDirectory
  (w.setExported "PWD" directory).mapShell ({ · with directory := directory })

def runShellText (run : Runner) (how : LineMode) (text : String) (w : World) : World :=
  endShell run (runText run how text w)

/-- A process that became a shell gets a name and arguments. -/
def World.withArguments (name : String) (args : List String) (w : World) : World :=
  w.mapShell ({ · with name := name, arguments := args })

/-- A process becomes a shell with the arguments of its program. -/
def runShell (run : Runner) (called : String) (args : List String) (w : World) : World :=
  let w := w.startShell called
  match w.setOptions true args with
  | .error e => endShell run (w.fail e)
  | .ok (options, w) =>
    let fromInput := w.hasOption "stdin" || options.rest.isEmpty
    let runInput := fun (w : World) =>
      let (script, w) := w.readAll
      runShellText run ⟨.plain, true⟩ (String.ofList script) w
    match options.takesScript, options.rest with
    | true, [] => endShell run (w.fail "-c requires an argument")
    | true, script :: args =>
      let w := match args with
        | [] => w
        | name :: args => w.withArguments name args
      if w.hasOption "stdin" then
        let w := runInner run .plain script w
        if w.isRunning then runInput w else endShell run w
      else runShellText run ⟨⟨false, true⟩, false⟩ script w
    | false, args =>
      if fromInput then
        runInput ((w.setOption "stdin" true).withArguments called args)
      else
        let file := args.head?.getD ""
        match w.readFile file with
        | .ok script =>
          runShellText run ⟨.plain, true⟩ script (w.withArguments file (args.drop 1))
        | .error e =>
          let why := if e == .notFound || e == .notDirectory then "No such file" else e.wording
          endShell run (w.fail ("cannot open " ++ file ++ ": " ++ why))

/-! ## Running files -/

/-- How a process starts programs, given how one runs the file at a path. -/
def launcherOf (runFile : String → List String → World → Except SystemError World) :
    Utility.Launcher :=
  let become := fun (command : List String) (w : World) =>
    (findProgram w w.launchPath (command.head?.getD "")).bind fun path => runFile path command w
  let call := fun (command : List String) (w : World) =>
    (become command (w.fork [])).map fun child =>
      let after := { w with machine := child.machine }
      match child.flow with
      | .halted => (after.withFlow .halted, none)
      | .killed signal =>
        ((after.waitUntil child.shell.clock).withStatus (128 + signal), some signal)
      | _ => ((after.waitUntil child.shell.clock).withStatus (child.shell.status % 256), none)
  ⟨become, call⟩

/-- A process runs the file at a path with all its arguments; a file that is no
    program is read as a script.  `depth` bounds how often one program starts
    another one in its place. -/
def runFile (run : Runner) : Nat → String → List String → World → Except SystemError World
  | 0, _, _, _ => .error .linkLoop
  | depth + 1, path, argv, w =>
    match programOf w.machine.files w.shell.cwd headDepth path argv with
    | .ok (name, argv) =>
      let called := argv.head?.getD name
      let args := argv.drop 1
      if name = "sh" ∨ name = "dash" then .ok (runShell run called args w)
      else match Utility.named? name with
        | some utility => .ok (utility (launcherOf (runFile run depth)) called args w)
        | none => .error .notFound
    | .error .notExecutable =>
      match w.stat path with
      | .ok _ => .ok (runShell run "/bin/sh" (path :: argv.drop 1) w)
      | .error e => .error e
    | .error e => .error e

/-- How often one program may start another one in its place. -/
def replacementDepth : Nat := 20

end SourceCheck.Shell
