import SourceCheck.Command.Line
import SourceCheck.Finding.Listing
import SourceCheck.Log.Setup
import SourceCheck.Number.Reading
import SourceCheck.Options.Basic
import SourceCheck.Path.Basic

/-! # Requests on the command line

    The program has two commands: one checks a file, one writes a configuration to
    start from.  The options for the log may stand before the command and after it.
    Where an option comes several times, the last one counts.
-/

namespace SourceCheck.CommandLine

open SourceCheck SourceCheck.Text SourceCheck.Number

/-! ## Settings -/

/-- A check that can be switched on and off. -/
inductive Switch where
  | build
  | lint
  | vet
  | cover
  deriving DecidableEq, Repr

/-- A setting that an argument makes.  What the value of an option would say is
    missing where that value was dropped. -/
inductive Setting where
  | logFormat (f : Option Log.Format)
  | logLevel (l : Option Log.Level)
  | version
  | command (name : String)
  | file (p : Path)
  | config (p : Option Path)
  | switch (s : Switch) (on : Bool)
  /-- The linter; the empty name stands for the default one. -/
  | linter (name : String)
  /-- How long a tool may run. -/
  | timeout (s : Option Seconds)
  | listing (f : Option ListingFormat)
  | showLog
  | saveAs (p : Option Path)
  /-- A file may be overwritten. -/
  | force
  deriving DecidableEq, Repr

/-! ## Options -/

def programName : String := "gocheck"

def version : String := "0.1.0"

def choice {β : Type} (name : β → String) (setting : Option β → Setting) (choices : List β)
    (word : String) : Except String Setting :=
  match choices.find? (name · == word) with
  | some b => .ok (setting (some b))
  | none =>
    .error ("invalid choice: " ++ quoted word ++ " (choose from "
      ++ joinWith ", " (choices.map (quoted ∘ name)) ++ ")")

def choiceOption {β : Type} (optionName : String) (name : β → String)
    (setting : Option β → Setting) (choices : List β) : OptionForm Setting :=
  ⟨[optionName], .value (choice name setting choices) (setting none)⟩

/-- A number of seconds that is greater than zero; NaN is let through. -/
def readTimeout (word : String) : Except String Setting :=
  match readLenientDouble? word with
  | none => .error ("invalid number of seconds: " ++ quoted word)
  | some x =>
    if x.isAtMostZero then .error ("timeout must be greater than zero, got " ++ word)
    else .ok (.timeout (some (.real x)))

def helpOption : OptionForm Setting := ⟨["-h", "--help"], .help⟩

def logOptions : List (OptionForm Setting) := [
  choiceOption "--log-format" Log.Format.name .logFormat Log.Format.all,
  choiceOption "--log-level" Log.Level.name .logLevel Log.Level.choices]

def switchOption (name : String) (s : Switch) : OptionForm Setting :=
  ⟨["--" ++ name, "--no-" ++ name], .flag fun given => .switch s (!startsWith given "--no-")⟩

def pathOption (names : List String) (setting : Option Path → Setting) : OptionForm Setting :=
  ⟨names, .value (fun s => .ok (setting (some (Path.ofText s)))) (setting none)⟩

def plainOption (name : String) (setting : Setting) : OptionForm Setting :=
  ⟨[name], .flag fun _ => setting⟩

def checkGrammar : Grammar Setting where
  program := programName ++ " check"
  options := helpOption :: logOptions ++ [
    pathOption ["--config"] .config,
    switchOption "build" .build,
    switchOption "lint" .lint,
    switchOption "vet" .vet,
    switchOption "cover" .cover,
    ⟨["--linter"], .value (fun s => .ok (.linter s)) (.linter "")⟩,
    ⟨["--timeout"], .value readTimeout (.timeout none)⟩,
    choiceOption "--format" ListingFormat.name .listing ListingFormat.all,
    plainOption "--show-log" .showLog]
  operands := .one "file" fun s => .file (Path.ofText s)

/-- What the command that writes a configuration understands. -/
def initGrammar : Grammar Setting where
  program := programName ++ " init"
  options := helpOption :: logOptions ++ [
    pathOption ["-s", "--save-as"] .saveAs,
    plainOption "--force" .force]
  operands := .none

def commands : List (String × Grammar Setting) := [("check", checkGrammar), ("init", initGrammar)]

def readCommand (name : String) (args : List String) : Except Stop (Parsed Setting) :=
  match commands.lookup name with
  | some g => (g.readSome args).map (Parsed.append ⟨[.command name], []⟩)
  | none => .ok ⟨[], []⟩

def programGrammar : Grammar Setting where
  program := programName
  options := helpOption :: logOptions ++ [plainOption "--version" .version]
  operands := .command "command" (commands.map (·.1)) readCommand

/-! ## Requests -/

def lastOf {β : Type} (tells : Setting → Option β) (settings : List Setting) : Option β :=
  settings.reverse.findSome? tells

/-- How the log is wanted; what is missing is left to the environment. -/
structure LogRequest where
  format : Option Log.Format
  level : Option Log.Level
  deriving DecidableEq, Repr

def logRequest (settings : List Setting) : LogRequest where
  format := (lastOf (fun | .logFormat f => some f | _ => none) settings).getD (some .text)
  level := (lastOf (fun | .logLevel l => some l | _ => none) settings).getD (some .warning)

def LogRequest.setup (r : LogRequest) (vs : Variables) : Except Log.SetupFault Log.Setup :=
  Log.setup vs (r.format.map Log.Format.name) (r.level.map Log.Level.name)

def switched (s : Switch) (settings : List Setting) : Option Bool :=
  lastOf (fun | .switch t on => if t = s then some on else none | _ => none) settings

/-- The last time limit that is set; it may be one without a value. -/
def lastTimeout (settings : List Setting) : Option (Option Seconds) :=
  lastOf (fun | .timeout s => some s | _ => none) settings

def overridesOf (settings : List Setting) : Options.Overrides where
  build := switched .build settings
  lint := switched .lint settings
  vet := switched .vet settings
  cover := switched .cover settings
  linter := lastOf (fun | .linter name => some name | _ => none) settings
  timeout := (lastTimeout settings).getD none

/-- A check that is asked for. -/
structure CheckRequest where
  file : Path
  /-- The file with options, if one is named; its name may be missing. -/
  config : Option (Option Path)
  overrides : Options.Overrides
  /-- The time limit is set, but no number of seconds is given for it. -/
  lacksTimeout : Bool
  listing : Option ListingFormat
  showLog : Bool
  deriving Repr

/-- A configuration that is to be written. -/
structure InitRequest where
  path : Option Path
  /-- A file may be overwritten. -/
  force : Bool
  deriving DecidableEq, Repr

/-- What is asked of the program. -/
inductive Request where
  | version
  | check (log : LogRequest) (r : CheckRequest)
  | init (log : LogRequest) (r : InitRequest)
  deriving Repr

def defaultConfigPath : Path := Path.ofText "gocheck.toml"

def checkRequest (settings : List Setting) : CheckRequest where
  file := (lastOf (fun | .file p => some p | _ => none) settings).getD (Path.ofText "")
  config := lastOf (fun | .config p => some p | _ => none) settings
  overrides := overridesOf settings
  lacksTimeout := lastTimeout settings = some none
  listing := (lastOf (fun | .listing f => some f | _ => none) settings).getD (some .text)
  showLog := settings.contains .showLog

def initRequest (settings : List Setting) : InitRequest where
  path := (lastOf (fun | .saveAs p => some p | _ => none) settings).getD (some defaultConfigPath)
  force := settings.contains .force

def requestOf (settings : List Setting) : Except Stop Request :=
  if settings.contains .version then .ok .version
  else match lastOf (fun | .command name => some name | _ => none) settings with
    | none => .error (.misuse programName "No command provided.")
    | some "check" => .ok (.check (logRequest settings) (checkRequest settings))
    | some _ => .ok (.init (logRequest settings) (initRequest settings))

def readRequest (args : List String) : Except Stop Request :=
  match programGrammar.read args with
  | .error e => .error e
  | .ok settings => requestOf settings

end SourceCheck.CommandLine
