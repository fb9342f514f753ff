import SourceCheck.StandIn.Utility.Plain

/-! # Utilities that run programs

    Some utilities prepare a process for another program and give way to it, or
    start programs and wait for them.  How a program is found and started is given
    to them.
-/

namespace SourceCheck.Utility

open SourceCheck SourceCheck.Text SourceCheck.Shell

/-- How programs are started, each by its name and its arguments. -/
structure Launcher where
  /-- The process gives way to a program. -/
  become : List String → World → Except SystemError World
  /-- A program runs in a process of its own, which is waited for; the status is that
      of the program, and the signal that ended it comes with it. -/
  call : List String → World → Except SystemError (World × Option Nat)

/-- The status that tells why a program could not be run. -/
def refusalStatus (e : SystemError) : Nat := if e == .notFound then 127 else 126

/-- The process gives way to a program, or complains. -/
def becomeOr (l : Launcher) (refuse : String → SystemError → World → World)
    (command : List String) (w : World) : World :=
  match l.become command w with
  | .ok w => w
  | .error e => (refuse (command.head?.getD "") e w).withStatus (refusalStatus e)

/-! ## Other surroundings -/

/-- The variables at the start of some arguments, and the arguments after them. -/
def settings : List String → List (String × String) × List String
  | a :: rest =>
    match a.toList.dropWhile (· != '=') with
    | '=' :: value =>
      let (more, args) := settings rest
      ((String.ofList (a.toList.takeWhile (· != '=')), String.ofList value) :: more, args)
    | _ => ([], a :: rest)
  | [] => ([], [])

/-- The words of a text in which blanks separate, and quotes and backslashes keep
    characters together; `word` is the word before, if one has begun. -/
def splitQuoted : Option Char → Option (List Char) → List Char → Option (List String)
  | none, word, [] => some ((word.map fun w => String.ofList w.reverse).toList)
  | some _, _, [] => none
  | none, word, '\\' :: c :: rest =>
    let shown := if c = 'n' then '\n' else if c = 't' then '\t' else if c = '_' then ' ' else c
    splitQuoted none (some (shown :: word.getD [])) rest
  | some '"', word, '\\' :: c :: rest =>
    let shown := if c = 'n' then '\n' else if c = 't' then '\t' else c
    splitQuoted (some '"') (some (shown :: word.getD [])) rest
  | none, word, c :: rest =>
    if isSpace c then
      match word with
      | none => splitQuoted none none rest
      | some w => (splitQuoted none none rest).map (String.ofList w.reverse :: ·)
    else if c = '\'' || c = '"' then splitQuoted (some c) (some (word.getD [])) rest
    else splitQuoted none (some (c :: word.getD [])) rest
  | some q, word, c :: rest =>
    if c = q then splitQuoted none (some (word.getD [])) rest
    else splitQuoted (some q) (some (c :: word.getD [])) rest

def splitFirst : List String → List String
  | a :: rest =>
    match a.toList with
    | '-' :: 'S' :: text =>
      if text.isEmpty then
        match rest with
        | t :: more => (splitQuoted none none t.toList).getD [t] ++ more
        | [] => []
      else (splitQuoted none none text).getD [String.ofList text] ++ rest
    | _ =>
      if startsWith a "--split-string=" then
        let text := a.toList.drop "--split-string=".length
        (splitQuoted none none text).getD [String.ofList text] ++ rest
      else a :: rest
  | [] => []

def toldSteps (isEmptied : Bool) (unset : List String) (changes : List (String × String))
    (directory : Option String) (command : List String) (w : World) : String :=
  let arguments := ((List.range command.length).zip command).map fun (i, a) =>
    "   arg[" ++ Number.natText i ++ "]= " ++ quotedWord w a ++ "\n"
  let lines :=
    (if isEmptied then ["cleaning environ\n"] else unset.map fun v => "unset:    " ++ v ++ "\n")
      ++ changes.map (fun (v, value) => "setenv:   " ++ v ++ "=" ++ value ++ "\n")
      ++ (directory.map fun d => "chdir:    " ++ shellQuoted d ++ "\n").toList
      ++ (command.head?.map fun program => "executing: " ++ program ++ "\n").toList
  joinWith "" (lines ++ arguments)

/-- Runs a program with other variables, or shows the variables. -/
def env (l : Launcher) : Utility := fun name args w =>
  match readFrontOptions [flag 'i' "ignore-environment", flag '0' "null", taking 'u' "unset",
      taking 'C' "chdir", flag 'v' "debug"] (splitFirst args) with
  | .error message => complainUsage 125 name message w
  | .ok o =>
    -- a dash alone empties the environment
    let (emptied, rest) := match o.args with
      | "-" :: rest => (true, rest)
      | rest => (o.has "ignore-environment", rest)
    let (changes, command) := settings rest
    let unset := o.values "unset"
    let wrong := unset.find? fun v => v.isEmpty || v.toList.contains '='
    match wrong with
    | some v =>
      complainWith 125 name ("cannot unset " ++ quotedWord w v ++ ": "
        ++ SystemError.invalidArgument.wording) w
    | none =>
      let told := if o.has "debug" then
          toldSteps emptied unset changes (o.last? "chdir") command w else ""
      let w := w.mapShell fun s =>
        { s with bindings := if emptied then [] else s.bindings.filter (·.exported) }
      let w := unset.foldl (fun w v => w.mapShell fun s =>
        { s with bindings := s.bindings.filter (·.name != v) }) w
      let w := changes.foldl (fun w (name, value) => w.setExported name value) w
      -- the directory is entered once the environment is set
      let moved : Except (String × SystemError) World := match o.last? "chdir" with
        | none => .ok w
        | some d => match w.enter d with
          | .ok place => .ok (w.mapShell ({ · with cwd := place }))
          | .error e => .error (d, e)
      match moved, command with
      | .error (d, e), _ =>
        complainWith 125 name ("cannot change directory to " ++ shellQuoted d ++ ": " ++ e.wording) w
      | .ok w, [] => printenv name (if o.has "null" then ["-0"] else []) (w.write 2 told)
      | .ok w, command =>
        becomeOr l (fun program e w =>
          let w := complain name (quotedWord w program ++ ": " ++ e.wording) w
          if e == .notFound && program.toList.any isSpace then
            complain name "use -[v]S to pass options in shebang lines" w
          else w) command (w.write 2 told)

/-- Gives way to a program; `shown` names one that cannot be run. -/
def giveWay (l : Launcher) (name : String) (shown : World → String → String)
    (command : List String) (w : World) : World :=
  becomeOr l (fun program e w => complain name (shown w program ++ ": " ++ e.wording) w) command w

/-- Runs a program that does not end with its terminal. -/
def nohup (l : Launcher) : Utility := fun name args w =>
  match readFrontOptions [] args with
  | .error message => complainUsage 125 name message w
  | .ok o =>
    if o.args.isEmpty then complainUsage 125 name "missing operand" w
    else giveWay l name (fun _ program => "failed to run command " ++ shellQuoted program) o.args w

/-- Arguments in which an adjustment stands alone behind hyphens or signs, which are written out
    as an option. -/
def withAdjustments : List String → List String
  | a :: rest =>
    match a.toList with
    | '-' :: '-' :: c :: cs =>
      if (c :: cs).all isDigitChar then "-n" :: String.ofList ('-' :: c :: cs) :: withAdjustments rest
      else a :: rest
    | '-' :: '+' :: cs => "-n" :: String.ofList cs :: withAdjustments rest
    | ['-', 'n'] =>
      match rest with
      | value :: rest => a :: value :: withAdjustments rest
      | [] => [a]
    | '-' :: c :: cs =>
      if isDigitChar c then "-n" :: String.ofList (c :: cs) :: withAdjustments rest else a :: rest
    | _ => a :: rest
  | [] => []

def isWholeNumber (s : String) : Bool :=
  let ds := match s.toList with
    | '-' :: ds | '+' :: ds => ds
    | ds => ds
  !ds.isEmpty && ds.all isDigitChar

/-- Runs a program with another priority. -/
def nice (l : Launcher) : Utility := fun name args w =>
  match readFrontOptions [taking 'n' "adjustment"] (withAdjustments args) with
  | .error message => complainUsage 125 name message w
  | .ok o =>
    match (o.last? "adjustment").filter (!isWholeNumber ·) with
    | some n => complainWith 125 name ("invalid adjustment " ++ quotedWord w n) w
    | none =>
      if o.args.isEmpty then
        if o.has "adjustment" then
          complainUsage 125 name "a command must be given with an adjustment" w
        else (w.print "0\n").withStatus 0
      else giveWay l name quotedWord o.args w

/-- A way to buffer: line by line, not at all, or some number of octets. -/
def isBufferMode (s : String) : Bool := s = "L" || (countWithUnit? s.toList).isSome

/-- Runs a program with other buffers. -/
def stdbuf (l : Launcher) : Utility := fun name args w =>
  match readFrontOptions [taking 'i' "input", taking 'o' "output", taking 'e' "error"] args with
  | .error message => complainUsage 125 name message w
  | .ok o =>
    match o.given.find? fun (_, mode) => !mode.any isBufferMode with
    | some (_, mode) => complainWith 125 name ("invalid mode " ++ quotedWord w (mode.getD "")) w
    | none =>
      if (o.values "input").contains "L" then
        complainUsage 125 name "line buffering stdin is meaningless" w
      else if o.args.isEmpty then complainUsage 125 name "missing operand" w
      else if o.given.isEmpty then
        complainUsage 125 name "you must specify a buffering mode option" w
      else
        giveWay l name (fun w program => "failed to run command " ++ quotedWord w program) o.args w

/-- Runs a program in a session of its own. -/
def setsid (l : Launcher) : Utility := fun name args w =>
  match readFrontOptions [flag 'c' "ctty", flag 'f' "fork", flag 'w' "wait"] args with
  | .error message => complainUsage 1 name message w
  | .ok o =>
    if o.args.isEmpty then complainUsage 1 name "no command specified" w
    else giveWay l name (fun _ program => "failed to execute " ++ program) o.args w

/-- Runs a program for a limited time.  A signal that cannot be held off ends the utility,
    too. -/
def timeout (l : Launcher) : Utility := fun name args w =>
  let usage := fun (w : World) =>
    (w.write 2 ("Try '" ++ name ++ " --help' for more information.\n")).withStatus 125
  match readFrontOptions [flag 'v' "verbose", taking 's' "signal", taking 'k' "kill-after",
      wordFlag "foreground", wordFlag "preserve-status"] args with
  | .error message => complainUsage 125 name message w
  | .ok o =>
    let signal? := match o.last? "signal" with
      | none => some 15
      | some s => (signalNumber? s).or (if startsWith s "SIG" then
          signalNumber? (String.ofList (s.toList.drop 3)) else none)
    match signal?, (o.values "kill-after").find? fun s => (microseconds? s).isNone, o.args with
    | none, _, _ =>
      complainUsage 125 name (quotedWord w ((o.last? "signal").getD "") ++ ": invalid signal") w
    | _, some interval, _ =>
      complainUsage 125 name ("invalid time interval " ++ quotedWord w interval) w
    | _, _, [] | _, _, [_] => usage w
    | some signal, none, interval :: command =>
      match microseconds? interval with
      | none => complainUsage 125 name ("invalid time interval " ++ quotedWord w interval) w
      | some micros =>
        let program := command.head?.getD ""
        let old := w.machine.limit
        let deadline := w.shell.clock + micros
        -- a limit inside another one counts only if it ends earlier
        let isLimited := micros != 0 && old.all (deadline < ·)
        let limited := if isLimited then
            w.mapMachine ({ · with limit := some deadline }) else w
        match l.call command limited with
        | .error e =>
          let w := complain name ("failed to run command " ++ quotedWord w program
            ++ ": " ++ e.wording) w
          w.withStatus (refusalStatus e)
        | .ok (after, killer) =>
          let ended := after.mapMachine ({ · with limit := old })
          if isLimited && after.flow == .halted then
            let ended := (ended.withFlow .next).waitUntil deadline
            let ended := if o.has "verbose" then
                ended.write 2 (name ++ ": sending signal " ++ signalName signal ++ " to command "
                  ++ quotedWord w program ++ "\n")
              else ended
            -- a program that was killed for good cannot give a status of its own
            if signal != 9 then
              ended.withStatus (if o.has "preserve-status" then 128 + signal else 124)
            else if o.has "foreground" || !ended.isRunning then ended.withStatus 137
            else (ended.withStatus 137).withFlow (.killed 9)
          else match killer with
            | some signal => if ended.isRunning then ended.withFlow (.killed signal) else ended
            | none => ended

/-! ## Arguments from the input -/

/-- The arguments on the standard input, each with whether a line ends behind it, up to a
    quotation mark that is not closed, whose name is told; `quote` is the quotation mark that
    is open, and `word` the argument that has begun, the last character first. -/
def inputWords : Option Char → Option (List Char) → List Char →
    List (List Char × Bool) × Option String
  | none, word, [] => ((word.map fun w => (w.reverse, true)).toList, none)
  | some '\'', _, [] => ([], some "single")
  | some _, _, [] => ([], some "double")
  | none, word, '\\' :: c :: rest => inputWords none (some (c :: word.getD [])) rest
  | none, word, c :: rest =>
    if c = '\n' then
      let (more, fault) := inputWords none none rest
      ((word.map fun w => (w.reverse, true)).toList ++ more, fault)
    else if isSpace c then
      match word with
      | none => inputWords none none rest
      | some w =>
        let (more, fault) := inputWords none none rest
        ((w.reverse, false) :: more, fault)
    else if c = '\'' || c = '"' then inputWords (some c) (some (word.getD [])) rest
    else inputWords none (some (c :: word.getD [])) rest
  | some q, word, c :: rest =>
    if c = '\n' then ([], some (if q = '\'' then "single" else "double"))
    else if c = q then inputWords none (some (word.getD [])) rest
    else inputWords (some q) (some (c :: word.getD [])) rest

/-- The lines on the standard input as one argument each, up to one in which a quotation mark
    is not closed. -/
def inputLines : List (List Char) → List (List Char × Bool) × Option String
  | [] => ([], none)
  | line :: rest =>
    let (words, fault) :=
      inputWords none none (line.flatMap fun c => if isBlank c then ['\\', c] else [c])
    match fault with
    | some _ => ([], fault)
    | none =>
      let (more, fault) := inputLines rest
      (((words.map (·.1)).flatten, true) :: more, fault)

/-- Groups of arguments, each with at most some number of them. -/
def groupsOf {α : Type} (count : Nat) (items : List α) : List (List α) :=
  let rec go : Nat → List α → List (List α)
    | 0, _ => []
    | _, [] => []
    | fuel + 1, items => items.take count :: go fuel (items.drop count)
  go (items.length + 1) items

/-- Groups of arguments, each from some number of lines. -/
def groupsOfLines (count : Nat) (items : List (List Char × Bool)) : List (List (List Char)) :=
  let rec go : Nat → List (List Char) → List (List Char × Bool) → List (List (List Char))
    | _, [], [] => []
    | _, group, [] => [group.reverse]
    | lines, group, (item, isEnd) :: rest =>
      if isEnd && lines + 1 == count then (item :: group).reverse :: go 0 [] rest
      else go (if isEnd then lines + 1 else lines) (item :: group) rest
  go 0 [] items

/-- A text with each occurrence of another one replaced; `fuel` bounds the
    characters. -/
def replacing (mark value : List Char) : Nat → List Char → List Char
  | 0, s => s
  | fuel + 1, s =>
    match s with
    | [] => []
    | c :: rest =>
      if !mark.isEmpty && mark.isPrefixOf s then
        value ++ replacing mark value fuel (s.drop mark.length)
      else c :: replacing mark value fuel rest

/-- Runs commands one after the other; one that cannot be started, or that asks for
    it, ends the row. -/
def runCommands (l : Launcher) (name : String) (isTraced : Bool) :
    List (List String) → World → World
  | [], w => w
  | command :: rest, w =>
    let program := command.head?.getD ""
    let before := w.shell.status
    let w := if isTraced then w.write 2 (spaced (command.map shellQuotedIfNeeded) ++ "\n") else w
    match l.call command w with
    | .error e => (complain name (program ++ ": " ++ e.wording) w).withStatus (refusalStatus e)
    | .ok (after, killer) =>
      let status := after.shell.status
      if !after.isRunning then after
      else match killer with
      | some signal =>
        complainWith 125 name (program ++ ": terminated by signal " ++ Number.natText signal) after
      | none =>
      if status = 255 then
        complainWith 124 name (program ++ ": exited with status 255; aborting") after
      else runCommands l name isTraced rest (after.withStatus (if status = 0 then before else 123))

def delimiterOf (s : String) : Char :=
  match s.toList with
  | ['\\', 'n'] => '\n'
  | ['\\', 't'] => '\t'
  | ['\\', '0'] => Char.ofNat 0
  | ['\\', '\\'] => '\\'
  | c :: _ => c
  | [] => Char.ofNat 0

/-- The numbers that `xargs` takes, each by its letter and its name, with the least one that
    is taken. -/
def argumentCounts : List (String × String × Nat) :=
  [("n", "max-args", 1), ("L", "max-lines", 1), ("P", "max-procs", 0), ("s", "max-chars", 1)]

/-- What is wrong with a number among the options of `xargs`. -/
def wrongCount (o : Options) : Option String :=
  argumentCounts.findSome? fun (letter, key, least) =>
    (o.last? key).bind fun v =>
      match plainCount? v with
      | none => some ("invalid number \"" ++ v ++ "\" for -" ++ letter ++ " option")
      | some n =>
        if n < least then
          some ("value " ++ v ++ " for -" ++ letter ++ " option should be >= 1")
        else none

/-- Runs commands with arguments from the standard input. -/
def xargs (l : Launcher) : Utility := fun name args w =>
  match readFrontOptions [flag '0' "null", taking 'a' "arg-file", taking 'd' "delimiter",
      taking 'E' "", (some 'e', "eof", .perhaps), taking 'I' "", (some 'i', "replace", .perhaps),
      taking 'L' "max-lines", (some 'l', "", .perhaps), taking 'n' "max-args", taking 'P' "max-procs",
      flag 'p' "interactive", flag 'r' "no-run-if-empty", taking 's' "max-chars", flag 't' "verbose",
      flag 'x' "exit", flag 'o' "open-tty"] args with
  | .error message => complainUsage 1 name message w
  | .ok o =>
  match wrongCount o with
  | some message => complainUsage 1 name message w
  | none =>
    let command := if o.args.isEmpty then ["echo"] else o.args
    let (content, w) := match o.last? "arg-file" with
      | some path => readSource path w
      | none => readSource "-" w
    let separator? := match o.lastOf? ["null", "delimiter"] with
      | some "null" => some (Char.ofNat 0)
      | some _ => (o.last? "delimiter").map delimiterOf
      | none => none
    let mark := match o.lastOf? ["I", "replace"] with
      | some "I" => o.last? "I"
      | some _ => some ((o.last? "replace").getD "\x7b\x7d")
      | none => none
    match content with
    | .error e => complain name ("Cannot open input file " ++ quotedWord w ((o.last? "arg-file").getD "")
        ++ ": " ++ e.wording) w
    | .ok s =>
      -- with a separator nothing is quoted
      let (items, fault) : List (List Char × Bool) × Option String := match separator?, mark with
        | some c, _ => ((endedBy c s).map (·, true), none)
        | none, some _ =>
          inputLines (((plainLines s).map (·.dropWhile isBlank)).filter (!·.isEmpty))
        | none, none => inputWords none none s
      let items := match o.last? "E" with
        | some stop => if separator?.isSome || stop.isEmpty then items
          else items.takeWhile fun (i, _) => i != stop.toList
        | none => items
      let texts := fun (g : List (List Char)) => g.map String.ofList
      let count := (o.last? "max-args").bind plainCount?
      let lineCount := ((o.last? "max-lines").orElse fun _ =>
        if o.has "l" then some ((o.last? "l").getD "1") else none).bind plainCount?
      let commands := match mark with
        | some m =>
          items.map fun (item, _) => command.map fun a =>
            String.ofList (replacing m.toList item (a.length + 1) a.toList)
        | none =>
          let plain := items.map (·.1)
          -- a line with an open quotation is left out with all that is behind it
          let whole := if fault.isSome then
              (items.reverse.dropWhile (!·.2)).reverse else items
          let groups := match o.lastOf? ["max-args", "max-lines", "l"], count, lineCount with
            | some "max-args", some n, _ => groupsOf n plain
            | some _, _, some n => groupsOfLines n whole
            | _, some n, _ => groupsOf n plain
            | _, _, _ => if plain.isEmpty then [] else [plain]
          let groups :=
            -- without any words the command is run once all the same
            if groups.isEmpty && fault.isNone && !o.has "no-run-if-empty" then [[]] else groups
          groups.map fun g => command ++ texts g
      let w := runCommands l name (o.has "verbose") commands ((w.withStatus 0).setChannel 0 .null)
      match fault with
      | none => w
      | some which =>
        complain name ("unmatched " ++ which
          ++ " quote; by default quotes are special to xargs unless you use the -0 option") w

end SourceCheck.Utility
