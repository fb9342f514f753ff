import SourceCheck.StandIn.Shell.Builtin.Basic
import SourceCheck.StandIn.Shell.Process

/-! # What a name stands for

    A name of a command may be a word of the language, an alias, a function, a
    command of the shell or a program.  Programs are looked up in the search path
    and remembered.
-/

namespace SourceCheck.Shell

open SourceCheck SourceCheck.Text

def regularCommands : List String := [
  "[", "alias", "bg", "cd", "chdir", "command", "echo", "false", "fg", "getopts", "hash", "jobs",
  "kill", "printf", "pwd", "read", "test", "true", "type", "ulimit", "umask", "unalias", "wait"]

/-- The commands whose arguments may be assignments. -/
def assigningCommands : List String := ["alias", "export", "local", "readonly"]

def isBuiltin (name : String) : Bool :=
  specialCommands.contains name || regularCommands.contains name

/-- What a name stands for as a command. -/
inductive Meaning where
  | function (body : Command)
  | builtin
  | program (path : String)
  /-- Nothing that can be run, and why. -/
  | unknown (cause : SystemError)

/-- What a name stands for, with programs looked up in some directories. -/
def meaningOf (w : World) (functionsToo : Bool) (directories : List String) (name : String) :
    Meaning :=
  if holds name '/' then .program name
  else if specialCommands.contains name then .builtin
  else match if functionsToo then w.shell.functions.lookup name else none with
    | some body => .function body
    | none =>
      if regularCommands.contains name then .builtin
      else match findProgram w directories name with
        | .ok path => .program path
        | .error e => .unknown e

/-- A program that was looked up is remembered. -/
def World.track (name : String) (w : World) : World :=
  if holds name '/' || w.shell.tracked.contains name then w
  else w.mapShell fun s => { s with tracked := s.tracked ++ [name] }

/-- A command that is no function, command of the shell or program is complained
    about. -/
def World.complainMissing (name : String) (cause : SystemError) (w : World) : World :=
  let why := if cause == .notFound || cause == .notDirectory then "not found" else cause.wording
  (w.complain (name ++ ": " ++ why)).withStatus 127

namespace Builtin

/-! ## Aliases -/

/-- An alias as a script would define it. -/
def aliasText (entry : String × String) : String := entry.1 ++ "=" ++ singleQuoted entry.2 ++ "\n"

def aliasTable (w : World) : List (String × String) :=
  World.inTableOrder World.variableRows (·.1) w.shell.aliases

def noAlias (command name : String) (w : World) : World :=
  (w.write 2 (command ++ ": " ++ name ++ " not found\n")).withStatus 1

/-- An alias is set; one that was there keeps its place. -/
def setAlias (name text : String) (w : World) : World :=
  w.mapShell fun s =>
    { s with aliases :=
        if s.aliases.any (·.1 == name) then
          s.aliases.map fun entry => if entry.1 == name then (name, text) else entry
        else s.aliases ++ [(name, text)] }

/-- The name and the text of an alias in an argument; the name is not empty. -/
def aliasSetting? (a : String) : Option (String × String) :=
  match a.toList with
  | [] => none
  | c :: rest =>
    let more := rest.takeWhile (· != '=')
    match rest.drop more.length with
    | _ :: text => some (String.ofList (c :: more), String.ofList text)
    | [] => none

def makeAlias : Builtin := fun _ _ args w =>
  if args.isEmpty then
    (w.print (World.concatenated ((aliasTable w).map aliasText))).withStatus 0
  else
    args.foldl (fun w a =>
      match aliasSetting? a with
      | some (name, text) => setAlias name text w
      | none =>
        match w.shell.aliases.find? (·.1 == a) with
        | some entry => w.print (aliasText entry)
        | none => noAlias "alias" a w) (w.withStatus 0)

def dropAlias : Builtin := fun _ _ args =>
  withOptions [('a', false)] args fun options names w =>
    if !options.isEmpty then (w.mapShell ({ · with aliases := [] })).withStatus 0
    else
      names.foldl (fun w name =>
        if w.shell.aliases.any (·.1 == name) then
          w.mapShell fun s => { s with aliases := s.aliases.filter (·.1 != name) }
        else noAlias "unalias" name w) (w.withStatus 0)

/-! ## Programs -/

/-- How many rows the table of remembered programs has. -/
def trackedRows : Nat := 31

/-- Remembers programs, forgets them, or shows those that are remembered. -/
def remember : Builtin := fun _ _ args =>
  withOptions [('r', false)] args fun options names w =>
    if !options.isEmpty then (w.mapShell ({ · with tracked := [] })).withStatus 0
    else if names.isEmpty then
      let paths := (World.inTableOrder trackedRows id w.shell.tracked).filterMap fun name =>
        (findProgram w w.searchPath name).toOption
      (w.print (World.concatenated (paths.map (· ++ "\n")))).withStatus 0
    else
      names.foldl (fun w name =>
        match meaningOf w true w.searchPath name with
        | .program _ => w.track name
        | .unknown e => (w.complainMissing name e).withStatus 1
        | _ => w) (w.withStatus 0)

/-! ## Descriptions -/

/-- How a name would be run, in words or briefly, and whether it can be run. -/
def description (w : World) (inWords : Bool) (directories : List String) (name : String) :
    String × Bool :=
  let told := fun (words brief : String) =>
    ((if inWords then name ++ words else brief) ++ "\n", true)
  if keywords.contains name then told " is a shell keyword" name
  else match w.shell.aliases.find? (·.1 == name) with
    | some entry =>
      (if inWords then name ++ " is an alias for " ++ entry.2 ++ "\n"
        else "alias " ++ aliasText entry, true)
    | none =>
      match meaningOf w true directories name with
      | .function _ => told " is a shell function" name
      | .builtin =>
        told (if specialCommands.contains name then " is a special shell builtin"
          else " is a shell builtin") name
      | .program path =>
        if (w.stat path).toOption.any fun e => !e.isDirectory && w.machine.files.mayRun e then
          told ((if w.shell.tracked.contains name then " is a tracked alias for " else " is ")
            ++ path) path
        else (if inWords then name ++ ": not found\n" else "", false)
      | .unknown _ => (if inWords then name ++ ": not found\n" else "", false)

/-- Shows how a name would be run. -/
def describe (inWords : Bool) (directories : List String) (name : String) (w : World) : World :=
  let (s, isThere) := description w inWords directories name
  let w := w.print s
  let w := match meaningOf w true directories name with
    | .program _ => if isThere && directories == w.searchPath then w.track name else w
    | _ => w
  if isThere then w else w.withStatus 127

/-- Shows in words how some names would be run. -/
def explain : Builtin := fun _ _ args w =>
  args.foldl (fun w name => describe true w.searchPath name w) (w.withStatus 0)

/-- Shows how the name after some options would be run. -/
def lookUp : Builtin := fun _ _ args =>
  withOptions [('p', false), ('v', false), ('V', false)] args fun options args w =>
    let directories := if options.any (·.1 == 'p') then splitAt ':' defaultSearchPath
      else w.searchPath
    let isAsked := options.any fun (c, _) => c == 'v' || c == 'V'
    match args with
    | name :: _ =>
      if isAsked then describe (options.any (·.1 == 'V')) directories name (w.withStatus 0)
      else w.withStatus 0
    | [] => w.withStatus 0

end Builtin

end SourceCheck.Shell
