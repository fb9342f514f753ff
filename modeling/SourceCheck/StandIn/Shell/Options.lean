import SourceCheck.StandIn.Shell.World

/-! # Options

    A shell has options that are on or off.  Each has a name, and most have a
    letter as well.  Commands of the shell have options of their own, which are
    letters that stand in front of the other arguments.
-/

namespace SourceCheck.Shell

open SourceCheck.Text

/-! ## Options of a shell -/

def optionLetters : List (String × Char) := [
  ("errexit", 'e'), ("noglob", 'f'), ("ignoreeof", 'I'), ("interactive", 'i'), ("monitor", 'm'),
  ("noexec", 'n'), ("stdin", 's'), ("xtrace", 'x'), ("verbose", 'v'), ("vi", 'V'), ("emacs", 'E'),
  ("noclobber", 'C'), ("allexport", 'a'), ("notify", 'b'), ("nounset", 'u')]

def optionNames : List String := optionLetters.map (·.1) ++ ["nolog", "debug"]

def World.optionText (w : World) : String :=
  String.ofList (optionLetters.reverse.filterMap fun (name, letter) =>
    if w.hasOption name then some letter else none)

/-- The two ways to edit a line exclude one another. -/
def rivalOption? (name : String) : Option String :=
  if name = "vi" then some "emacs" else if name = "emacs" then some "vi" else none

def World.setLetters (on : Bool) : List Char → World → Except String World
  | [], w => .ok w
  | c :: rest, w =>
    match optionLetters.find? (·.2 == c) with
    | none => .error ("Illegal option -" ++ String.singleton c)
    | some (name, _) =>
      let w := match rivalOption? name with
        | some rival => if on then w.setOption rival false else w
        | none => w
      (w.setOption name on).setLetters on rest

def World.optionList (w : World) (readable : Bool) : String :=
  World.concatenated ((if readable then ["Current option settings\n"] else [])
    ++ optionNames.map fun name =>
      if readable then
        name ++ String.ofList (List.replicate (16 - name.length) ' ')
          ++ (if w.hasOption name then "on" else "off") ++ "\n"
      else "set " ++ (if w.hasOption name then "-o " else "+o ") ++ name ++ "\n")

/-- How the arguments after some options are used. -/
inductive OptionEnd where
  /-- Arguments were found that are no options, or none are left. -/
  | plain
  /-- A mark told that only arguments follow. -/
  | marked
  deriving DecidableEq, Repr

/-- What was read of the options of a shell. -/
structure OptionReading where
  rest : List String
  ending : OptionEnd
  /-- A script is among the arguments left. -/
  takesScript : Bool

/-- The letters of one argument; `isStart` tells that a shell is started, which
    may be given a script and may be made a login shell. -/
def World.setCluster (isStart on : Bool) :
    List Char → List String → Bool → World → Except String (List String × Bool × World)
  | [], rest, takesScript, w => .ok (rest, takesScript, w)
  | c :: cs, rest, takesScript, w =>
    if isStart && c == 'c' then w.setCluster isStart on cs rest true
    else if isStart && c == 'l' then w.setCluster isStart on cs rest takesScript
    else if c = 'o' then
      match rest with
      | [] => (w.print (w.optionList on)).setCluster isStart on cs [] takesScript
      | name :: rest =>
        if optionNames.contains name then
          (w.setOption name on).setCluster isStart on cs rest takesScript
        else .error ("Illegal option -o " ++ name)
    else match w.setLetters on [c] with
      | .ok w => w.setCluster isStart on cs rest takesScript
      | .error e => .error e

/-- The options at the start of some arguments are set; `fuel` bounds the number of
    arguments. -/
def World.setOptionsWith (isStart : Bool) :
    Nat → List String → Bool → World → Except String (OptionReading × World)
  | 0, args, takesScript, w => .ok (⟨args, .plain, takesScript⟩, w)
  | fuel + 1, args, takesScript, w =>
    match args with
    | [] => .ok (⟨[], .plain, takesScript⟩, w)
    | a :: rest =>
      match a.toList with
      | '-' :: letters =>
        if letters = ['-'] then .ok (⟨rest, .marked, takesScript⟩, w)
        else if letters.isEmpty then
          let w := if isStart then w else (w.setOption "xtrace" false).setOption "verbose" false
          .ok (⟨rest, .plain, takesScript⟩, w)
        else match w.setCluster isStart true letters rest takesScript with
          | .ok (rest, takesScript, w) => w.setOptionsWith isStart fuel rest takesScript
          | .error e => .error e
      | '+' :: letters =>
        match w.setCluster isStart false letters rest takesScript with
        | .ok (rest, takesScript, w) => w.setOptionsWith isStart fuel rest takesScript
        | .error e => .error e
      | _ => .ok (⟨a :: rest, .plain, takesScript⟩, w)

def World.setOptions (isStart : Bool) (args : List String) (w : World) :
    Except String (OptionReading × World) :=
  w.setOptionsWith isStart (args.length + 1) args false

/-! ## Options of a command -/

/-- A letter that a command takes as an option, and whether an argument belongs to
    it. -/
abbrev Letter := Char × Bool

/-- The letters of one argument, with the arguments that belong to them, and the
    arguments left. -/
def readLetters (letters : List Letter) :
    List Char → List String → Except String (List (Char × String) × List String)
  | [], rest => .ok ([], rest)
  | c :: cs, rest =>
    match letters.lookup c with
    | none => .error ("Illegal option -" ++ String.singleton c)
    | some false => (readLetters letters cs rest).map fun (more, rest) => ((c, "") :: more, rest)
    | some true =>
      match cs, rest with
      | [], [] => .error ("No arg for -" ++ String.singleton c ++ " option")
      | [], a :: rest => .ok ([(c, a)], rest)
      | cs, rest => .ok ([(c, String.ofList cs)], rest)

/-- The options in front of the arguments of a command, and the arguments after
    them; `fuel` bounds their number. -/
def readOptionsWith (letters : List Letter) :
    Nat → List String → Except String (List (Char × String) × List String)
  | 0, args => .ok ([], args)
  | fuel + 1, args =>
    match args with
    | [] => .ok ([], [])
    | a :: rest =>
      match a.toList with
      | ['-', '-'] => .ok ([], rest)
      | '-' :: c :: cs =>
        match readLetters letters (c :: cs) rest with
        | .error e => .error e
        | .ok (here, rest) =>
          (readOptionsWith letters fuel rest).map fun (more, rest) => (here ++ more, rest)
      | _ => .ok ([], args)

/-- The options in front of the arguments of a command, and the arguments after
    them. -/
def readOptions (letters : List Letter) (args : List String) :
    Except String (List (Char × String) × List String) :=
  readOptionsWith letters (args.length + 1) args

end SourceCheck.Shell
