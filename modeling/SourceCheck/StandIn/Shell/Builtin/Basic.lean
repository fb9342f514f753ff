import SourceCheck.StandIn.Shell.Condition
import SourceCheck.StandIn.Shell.Printf
import SourceCheck.StandIn.Shell.Script

/-! # Commands of the shell itself

    Some commands are no programs: they change the shell that runs them, or are
    too common to start a process for.  Here are those that decide, print, and
    tell how the script goes on.
-/

namespace SourceCheck.Shell

open SourceCheck SourceCheck.Text

/-- A command of the shell: from its arguments and the world to the world after
    it. -/
abbrev Builtin := Runner → Mode → List String → World → World

namespace Builtin

/-- A count that an argument writes is used; the command fails if it writes
    none. -/
def withCount (s : String) (act : Nat → World → World) (w : World) : World :=
  match count? s with
  | some n => act n w
  | none => w.fail ("Illegal number: " ++ s)

/-- The options of a command and its other arguments are used; the command fails if
    there is an option it does not have. -/
def withOptions (letters : List Letter) (args : List String)
    (act : List (Char × String) → List String → World → World) (w : World) : World :=
  match readOptions letters args with
  | .ok (options, args) => act options args w
  | .error e => w.fail e

def withArguments (args : List String) (act : List String → World → World) (w : World) : World :=
  withOptions [] args (fun _ args => act args) w

def succeed : Builtin := fun _ _ _ w => w.withStatus 0

/-- Fails and does nothing else. -/
def refuse : Builtin := fun _ _ _ w => w.withStatus 1

/-! ## Deciding and printing -/

/-- Decides a condition, whose last word must start as the bracket that closes
    it. -/
def test (isBracket : Bool) : Builtin := fun _ _ args w =>
  let isClosed := (args.getLast?.bind fun a => a.toList.head?) == some ']'
  let answer := if isBracket && !isClosed then .error .bracket
    else decideWords w (if isBracket then args.dropLast else args)
  match answer with
  | .ok holds => w.withStatus (if holds then 0 else 1)
  | .error fault => w.fail fault.message

def echo : Builtin := fun _ _ args w => (w.print (echoText args)).withStatus 0

def print : Builtin := fun _ _ args =>
  withArguments args fun args w =>
    match args with
    | [] => w.fail "usage: printf format [arg ...]"
    | template :: args =>
      let (s, complaints, fault) := Shell.printf template args
      let w := complaints.foldl (fun w c => w.complain c) w
      let w := (w.print s).withStatus (if complaints.isEmpty then 0 else 1)
      match fault with
      | some message => w.fail message
      | none => w

/-- Shows the time that was used up; none is counted. -/
def times : Builtin := fun _ _ _ w =>
  let none := "0m0.000000s 0m0.000000s\n"
  (w.print (none ++ none)).withStatus 0

/-! ## Going on -/

/-- Ends the shell.  In an action on a signal, the status before it counts. -/
def exit : Builtin := fun _ _ args w =>
  match args with
  | [] => (w.withStatus (w.shell.trapStatus.getD w.shell.status)).withFlow .exit
  | a :: _ => withCount a (fun n w => (w.withStatus n).withFlow .exit) w

def back : Builtin := fun _ _ args w =>
  match args with
  | [] => w.withFlow .back
  | a :: _ => withCount a (fun n w => (w.withStatus n).withFlow .back) w

/-- Leaves some of the loops being run, in one way or another; where no loop is
    being run, nothing happens. -/
def turning (flow : Nat → Flow) : Builtin := fun _ _ args w =>
  let number := args.head?.getD "1"
  withCount number (fun n w =>
    if n = 0 then w.fail ("Illegal number: " ++ number)
    else
      let w := w.withStatus 0
      match min n w.shell.loops with
      | 0 => w
      | n => w.withFlow (flow n)) w

def leave : Builtin := turning .leave

def again : Builtin := turning .again

def shift : Builtin := fun _ _ args =>
  withCount (args.head?.getD "1") fun n w =>
    if w.shell.arguments.length < n then w.fail "can't shift that many"
    else
      (w.mapShell fun s =>
        { s with arguments := s.arguments.drop n, optionPlace := .start }).withStatus 0

def eval : Builtin := fun run mode args w => runInner run mode.inside (spaced args) w

/-- The file of a name without a slash in some directories. -/
def scriptIn (w : World) (name : String) : List String → Option String
  | [] => none
  | directory :: rest =>
    let path := if directory.isEmpty then name else joinText directory name
    match w.stat path with
    | .ok e => if e.isFile then some path else scriptIn w name rest
    | .error _ => scriptIn w name rest

def source : Builtin := fun run _ args =>
  withArguments args fun args w =>
    match args with
    | [] => w.withStatus 0
    | name :: _ =>
      let file := if holds name '/' then some name
        else scriptIn w name (splitAt ':' ((w.named? "PATH").getD ""))
      match file with
      | none => w.fail (name ++ ": not found")
      | some path =>
        match w.readFile path with
        | .error e =>
          let why := if e == .notFound || e == .notDirectory then "No such file" else e.wording
          w.fail ("cannot open " ++ path ++ ": " ++ why)
        | .ok script =>
          let w := w.mapShell ({ · with command := some path })
          let w := runText run ⟨.plain, true⟩ script w
          if w.flow == .back then w.withFlow .next else w

end Builtin

end SourceCheck.Shell
