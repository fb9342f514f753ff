import SourceCheck.StandIn.Shell.Builtin.Table
import SourceCheck.StandIn.Shell.Redirection

/-! # Simple commands

    The words of a simple command are put in place; the first one tells what is
    run: a function, a command of the shell, or a program.  Then its redirections
    are made and its variables set, in this order.
-/

namespace SourceCheck.Shell

open SourceCheck SourceCheck.Text

def startTime : Nat := 1000

/-- The output of commands that run in a shell of their own; their status is kept
    beside that of the last command. -/
def outputOf (run : Runner) (commands : List Command) (w : World) : String × World :=
  if commands.isEmpty then ("", w)
  else
    let (pipe, w) := w.newId
    let child := endShell run
      (runRow run ⟨false, true⟩ commands ((w.fork commands).setChannel 1 (.pipe pipe)))
    let output := child.written pipe
    let after := w.resume (child.forget pipe)
    (output,
      (after.mapShell ({ · with outputStatus := after.shell.status })).withStatus w.shell.status)

/-! ## Finding out what is run -/

/-- What is known of a command before all its words are put in place. -/
structure Plan where
  /-- The arguments so far, its name first. -/
  fields : List String
  /-- The words that are not yet put in place. -/
  rest : List (List Part)
  /-- It is special: it keeps its variables, and its failure ends the script. -/
  isSpecial : Bool
  /-- It is a command of the shell, not a program or a function. -/
  isBuiltin : Bool
  functionsToo : Bool
  /-- Programs are looked up where a plain system has them. -/
  usesDefault : Bool

/-- More fields are put in place, until there is one at least. -/
def takeFields (substitute : Substitution) :
    List (List Part) → World → List String × List (List Part) × World
  | [], w => ([], [], w)
  | word :: rest, w =>
    let (fields, w) := expandWord substitute word w
    if !w.isRunning then ([], rest, w)
    else if fields.isEmpty then takeFields substitute rest w
    else (fields, rest, w)

/-- What follows the options of the command that runs others: the arguments from
    the name to be run on, and the words left.  Nothing if it is to do something
    else.  `fuel` bounds the number of options. -/
def afterOptions (substitute : Substitution) :
    Nat → Bool → List String → List (List Part) → World →
      Option (List String × List (List Part) × Bool) × List String × List (List Part) × World
  | 0, _, seen, rest, w => (none, seen, rest, w)
  | fuel + 1, usesDefault, seen, rest, w =>
    let (next, rest, w) := match seen with
      | _ :: _ => (seen, rest, w)
      | [] => takeFields substitute rest w
    match next with
    | [] => (none, [], rest, w)
    | a :: more =>
      match a.toList with
      | ['-', '-'] =>
        let (fields, rest, w) := match more with
          | _ :: _ => (more, rest, w)
          | [] => takeFields substitute rest w
        (if fields.isEmpty then none else some (fields, rest, usesDefault), a :: fields, rest, w)
      | '-' :: c :: cs =>
        if (c :: cs).all (· == 'p') then
          let (found, used, rest, w) := afterOptions substitute fuel true more rest w
          (found, a :: used, rest, w)
        else (none, next, rest, w)
      | _ => (some (next, rest, usesDefault), next, rest, w)

/-- A plan for a command; `fuel` bounds how often one command runs another. -/
def planFrom (substitute : Substitution) :
    Nat → Plan → Option Bool → World → Plan × World
  | 0, plan, _, w => (plan, w)
  | fuel + 1, plan, special, w =>
    let name := plan.fields.head?.getD ""
    let isFunction := plan.functionsToo && (w.shell.functions.lookup name).isSome
    if isFunction || !isBuiltin name then ({ plan with isBuiltin := false }, w)
    else
      let isSpecial := special.getD (specialCommands.contains name)
      let plan := { plan with isBuiltin := true, isSpecial := isSpecial }
      if name = "command" then
        let (found, used, rest, w) :=
          afterOptions substitute 1000 false (plan.fields.drop 1) plan.rest w
        match found with
        | some (fields, rest, usesDefault) =>
          planFrom substitute fuel
            { plan with
              fields := fields, rest := rest, functionsToo := false
              usesDefault := plan.usesDefault || usesDefault }
            (some isSpecial) w
        | none => ({ plan with fields := name :: used, rest := rest }, w)
      else (plan, w)

/-- Words are put in place, assignments among them as such if wanted. -/
def expandArguments (substitute : Substitution) (assigns : Bool) :
    List (List Part) → World → List String × World
  | [], w => ([], w)
  | word :: rest, w =>
    let (here, w) := match if assigns then assignmentOf word else none with
      | some (name, value) =>
        let (value, w) := expandValue substitute value w
        ([name ++ "=" ++ value], w)
      | none => expandWord substitute word w
    if !w.isRunning then ([], w)
    else
      let (more, w) := expandArguments substitute assigns rest w
      (here ++ more, w)

/-- The plan of a command with all its words put in place; nothing if it has no
    words. -/
def planOf (substitute : Substitution) (words : List (List Part)) (w : World) :
    Option Plan × World :=
  let (fields, rest, w) := takeFields substitute words w
  if !w.isRunning || fields.isEmpty then (none, w)
  else
    let (plan, w) := planFrom substitute 1000 ⟨fields, rest, false, false, true, false⟩ none w
    if !w.isRunning then (none, w)
    else
      let assigns := plan.isBuiltin && assigningCommands.contains (plan.fields.head?.getD "")
      let (more, w) := expandArguments substitute assigns plan.rest w
      (some { plan with fields := plan.fields ++ more, rest := [] }, w)

/-! ## Variables -/

/-- How the variables of a command are set. -/
inductive Setting where
  | lasting
  /-- For good, and programs get to see them. -/
  | exported
  /-- For the command, and programs get to see them. -/
  | passing
  deriving DecidableEq, Repr

def setAs (how : Setting) (name value : String) (w : World) : World :=
  match how with
  | .lasting => w.setVariable name value
  | .exported => w.setExported name value
  | .passing => w.makeLocal name (some value) true

/-- Variables are set, each value put in place when its turn comes; the assignments
    are given back as texts. -/
def assignAll (substitute : Substitution) (how : Setting) :
    List (String × List Part) → World → List String × World
  | [], w => ([], w)
  | (name, word) :: rest, w =>
    let (value, w) := expandValue substitute word w
    if !w.isRunning then ([], w)
    else
      let w := setAs how name value w
      if !w.isRunning then ([], w)
      else
        let (more, w) := assignAll substitute how rest w
        ((name ++ "=" ++ value) :: more, w)

/-- A command is shown before it is run, if the shell was told so.  The text in
    front of it may use variables. -/
def trace (substitute : Substitution) (errors : Option Channel) (texts : List String) (w : World) :
    World :=
  if !w.hasOption "xtrace" || !w.isRunning then w
  else
    let start := (w.named? "PS4").getD ""
    let silent := w.setOption "xtrace" false
    let (start, shown) := match quotedParts? start with
      | some parts =>
        let (pieces, w) := expandParts substitute ⟨false, false, true, false⟩ false 0 false parts silent
        (textOf pieces, w)
      | none => (start, silent)
    let w := shown.setOption "xtrace" true
    let current := w.channel? 2
    ((w.restoreChannel 2 errors).write 2 (start ++ spaced texts ++ "\n")).restoreChannel 2 current

/-! ## Running -/

def callFunction (run : Runner) (mode : Mode) (body : Command) (args : List String) (w : World) :
    World :=
  let saved := w.shell
  let w := w.mapShell ({ · with arguments := args, optionPlace := .start, loops := 0 })
  let w := run mode.inside body w
  let w := w.mapShell
    ({ · with arguments := saved.arguments, optionPlace := saved.optionPlace, loops := saved.loops })
  if w.flow == .back then w.withFlow .next else w

/-- A program file cannot be run. -/
def complainStart (name : String) (e : SystemError) (w : World) : World :=
  let isAbsent := e == .notFound || e == .notDirectory
  let status := if isAbsent || e == .linkLoop || e == .nameTooLong then 127 else 126
  (w.complain (name ++ ": " ++ if isAbsent then "not found" else e.wording)).withStatus status

def becomeProgram (run : Runner) (path : String) (args : List String) (w : World) : World :=
  let w := w.waitUntil (w.shell.clock + startTime)
  if !w.isRunning then w
  else match runFile run replacementDepth path args w with
  | .ok w => (w.mapShell ({ · with traps := [] })).withFlow (if w.isRunning then .exit else w.flow)
  | .error e => (complainStart (args.head?.getD "") e w).withFlow .exit

/-- A program runs in a process of its own, which is waited for, or in this one if
    the shell ends after it. -/
def startProgram (run : Runner) (mode : Mode) (directories : List String) (args : List String)
    (w : World) : World :=
  let name := args.head?.getD ""
  match findProgram w directories name with
  | .error e => w.complainMissing name e
  | .ok path =>
    if mode.isLast && !w.hasTraps then becomeProgram run path args w
    else
      let w := w.track name
      w.resume (becomeProgram run path args (w.fork []))

def replaceShell (run : Runner) (directories : List String) (args : List String) (w : World) :
    World :=
  Builtin.withArguments args (fun args w =>
    match args with
    | [] => w.withStatus 0
    | name :: _ =>
      match findProgram w directories name with
      | .ok path => becomeProgram run path args w
      | .error e => (complainStart name e w).withFlow .exit) w

/-- What a command of the shell writes is lost, which it complains about. -/
def noticingLoss (name : String) (body : World → World) (w : World) : World :=
  if (w.channel? 1).isSome || name = "eval" || name = "." then body w
  else
    let (pipe, w) := w.newId
    let after := body (w.setChannel 1 (.pipe pipe))
    let isLost := !(after.written pipe).isEmpty
    let after := (after.forget pipe).closeChannel 1
    if isLost && (after.isRunning || after.flow == .failed) then
      (after.complain (name ++ ": I/O error")).withStatus (after.shell.status ||| 1)
    else after

/-- A command of the shell is run.  One that fails ends the script only if it is
    special. -/
def runBuiltin (run : Runner) (mode : Mode) (isSpecial : Bool) (directories : List String)
    (args : List String) (w : World) : World :=
  let name := args.head?.getD ""
  let outer := w.shell.command
  let body := if name = "exec" then replaceShell run directories (args.drop 1)
    else match Builtin.named? name with
      | some builtin => noticingLoss name (builtin run mode (args.drop 1))
      | none => id
  let w := body (w.mapShell ({ · with command := some name }))
  let w := w.mapShell ({ · with command := outer })
  if w.flow == .failed && !isSpecial then w.withFlow .next else w

/-- A command with its words put in place is run. -/
def runPlan (run : Runner) (mode : Mode) (plan : Plan) (w : World) : World :=
  let directories := if plan.usesDefault then splitAt ':' defaultSearchPath else w.searchPath
  let name := plan.fields.head?.getD ""
  if plan.isBuiltin then runBuiltin run mode plan.isSpecial directories plan.fields w
  else match if plan.functionsToo then w.shell.functions.lookup name else none with
    | some body => callFunction run mode body (plan.fields.drop 1) w
    | none => startProgram run mode directories plan.fields w

def runSimple (run : Runner) (mode : Mode) (line : Nat) (assignments : List (String × List Part))
    (words : List (List Part)) (redirects : List Redirect) (w : World) : World :=
  let substitute := outputOf run
  let w := (w.atLine line).mapShell ({ · with outputStatus := 0 })
  let (plan, w) := planOf substitute words w
  if !w.isRunning then w
  else
    let (prepared, w) := prepareAll substitute redirects w
    if !w.isRunning then w
    else
      let before := w
      let isSpecial := plan.any (·.isSpecial)
      let isExec := plan.any fun p => p.isBuiltin && p.fields.head? == some "exec"
      let (w, made) := makeAll substitute prepared w
      if !made then
        let w := restoreAll prepared before w
        if isSpecial && w.isRunning then w.withFlow .failed else w
      else
        let errors := before.channel? 2
        let body := fun (w : World) =>
          let how : Setting := match plan with
            | none => .lasting
            | some p =>
              if !p.isSpecial then .passing
              else if isExec && 1 < p.fields.length then .exported
              else .lasting
          let go := fun (w : World) =>
            let (texts, w) := assignAll substitute how assignments w
            let fields := (plan.map (·.fields)).getD []
            let w := trace substitute errors (texts ++ fields) w
            if !w.isRunning then w
            else match plan with
              | none => w.withStatus w.shell.outputStatus
              | some p => runPlan run mode p w
          if how = .passing then w.withLocals go else go w
        let w := body w
        if isExec && (w.isRunning || w.flow == .failed) then w else restoreAll prepared before w

end SourceCheck.Shell
