import SourceCheck.StandIn.Awk.Run

/-! # The utility that runs programs on records -/

namespace SourceCheck.Utility

open SourceCheck SourceCheck.Text SourceCheck.Shell

namespace Awk

open SourceCheck.Awk

/-- What the options say. -/
structure Given where
  files : List String
  /-- The variables that are set before the start, the last one first. -/
  settings : List (String × List Char)
  /-- The arguments after the options. -/
  args : List String

/-- The options at the start of some arguments, or the status and the message that end
    the program. -/
def readGiven : Given → List String → Except (Nat × String) Given
  | g, [] => .ok g
  | g, a :: rest =>
    let separator := fun (fs : List Char) => { g with settings := ("FS", unescaped fs) :: g.settings }
    let setting := fun (v : List Char) => match assignmentOf? v with
      | some s => (.ok { g with settings := s :: g.settings } : Except (Nat × String) Given)
      | none => .error (2, "improper assignment: -v " ++ String.ofList v)
    let lacking := fun (c : Char) =>
      (.error (2, "option -" ++ String.ofList [c] ++ " lacks argument") : Except (Nat × String) Given)
    match a.toList, rest with
    | ['-', '-'], rest => .ok { g with args := rest }
    -- the value of an option is the next argument or the rest of its own
    | ['-', c], b :: more =>
      if c = 'f' then readGiven { g with files := g.files ++ [b] } more
      else if c = 'F' then readGiven (separator b.toList) more
      else if c = 'v' then do readGiven (← setting b.toList) more
      else if c = 'W' then readGiven g more
      else .error (2, "not an option: " ++ a)
    | ['-', c], [] =>
      if c = 'f' ∨ c = 'F' ∨ c = 'v' ∨ c = 'W' then lacking c
      else .error (2, "not an option: " ++ a)
    | '-' :: c :: value, rest =>
      if c = 'f' then readGiven { g with files := g.files ++ [String.ofList value] } rest
      else if c = 'F' then readGiven (separator value) rest
      else if c = 'v' then do readGiven (← setting value) rest
      else if c = 'W' then readGiven g rest
      else .error (2, "not an option: " ++ a)
    | _, _ => .ok { g with args := a :: rest }

/-- The texts of the files with the program, put together. -/
def readPrograms (name : String) : List String → World → Except World (List Char × World)
  | [], w => .ok ([], w)
  | path :: rest, w =>
    let (content, w) := readSource path w
    match content with
    | .error e =>
      .error (complainWith 2 name ("cannot open \"" ++ path ++ "\" (" ++ e.wording ++ ")") w)
    | .ok s => (readPrograms name rest w).map fun (more, w) => (s ++ more, w)

/-- The variables before the start. -/
def firstScalars (argumentCount : Nat) : List (String × Value) := [
  ("FS", .text [' ']), ("OFS", .text [' ']), ("ORS", .text ['\n']), ("RS", .text ['\n']),
  ("SUBSEP", .text [Char.ofNat 28]), ("CONVFMT", .text "%.6g".toList),
  ("OFMT", .text "%.6g".toList), ("NR", .ofInt 0), ("FNR", .ofInt 0), ("RSTART", .ofInt 0),
  ("RLENGTH", .ofInt (-1)), ("ARGC", .ofInt argumentCount)]

def firstState (g : Given) (name : String) (w : World) : SourceCheck.Awk.State :=
  let arguments := name :: g.args
  let numbered := (List.range arguments.length).zip arguments
  -- arguments come from outside and may be numbers, so they are kept as input
  let argv := numbered.foldl (fun t (i, a) => t.insert (.integer i) (.input a.toList)) Table.empty
  let environ := w.environment.foldl (fun t (n, v) =>
    t.insert (.text n.toList) (.input v.toList)) Table.empty
  let scalars := firstScalars arguments.length
    ++ g.settings.reverse.map fun (n, v) => (n, Value.input v)
  { world := w.withStatus 0
    scalars := Std.HashMap.ofList scalars
    tables := Std.HashMap.ofList [("ARGV", argv), ("ENVIRON", environ)]
    frame := #[]
    fresh := 0
    record := .ofText []
    openRules := []
    pieces := []
    sinks := []
    sources := []
    stream := none
    nextArgument := 1
    hasFile := false
    isOver := false
    status := 0
    regexes := ∅
    randoms := #[]
    seed := .ofInt 0 }

/-- A program runs in a state; the world after it. -/
def runProgram (l : Launcher) (name : String) (p : Program) (s : SourceCheck.Awk.State) : World :=
  let setting : Setting := ⟨p.functions, p.tableParameters, p.globalTables, l⟩
  let k : Context := { setting with call := callFunction setting callLimit }
  match p.run k s with
  | .ok _ s => s.world.withStatus s.status
  | .error (.fault message) s =>
    let w := s.world.write 2 (name ++ ": " ++ message ++ "\n")
    match closeAll l { s with world := w } with
    | .ok _ s | .error _ s => s.world.withStatus 2
  | .error .halted s => s.world.withFlow .halted
  | .error _ s => s.world.withStatus s.status

end Awk

/-- Runs a program on records. -/
def awk (l : Launcher) : Utility := fun name args w =>
  let name := String.ofList (name.toList.reverse.takeWhile (· != '/')).reverse
  match Awk.readGiven ⟨[], [], []⟩ args with
  | .error (status, message) => complainWith status name message w
  | .ok g =>
    let program? : Except World (Awk.Given × List Char × World) :=
      if g.files.isEmpty then
        match g.args with
        | [] => .error ((w.write 2 ("Usage: " ++ name ++ " [Options] [Program] [file ...]\n")).withStatus 2)
        | text :: rest => .ok ({ g with args := rest }, text.toList, w)
      else (Awk.readPrograms name g.files w).map fun (s, w) => (g, s, w)
    match program? with
    | .error w => w
    | .ok (g, s, w) =>
      match SourceCheck.Awk.readProgram s with
      | .error fault => complainWith 2 name (fault.wording g.files.head?) w
      | .ok p => Awk.runProgram l name p (Awk.firstState g name w)

end SourceCheck.Utility
