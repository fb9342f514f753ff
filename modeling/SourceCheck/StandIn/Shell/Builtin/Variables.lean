import SourceCheck.StandIn.Shell.Builtin.Basic
import SourceCheck.StandIn.Shell.Fields

/-! # Commands on variables

    Commands that set options, arguments and variables of the shell, or list
    them.
-/

namespace SourceCheck.Shell

open SourceCheck SourceCheck.Text

namespace Builtin

/-- The name and the value of an assignment in an argument. -/
def splitSetting (a : String) : String × Option String :=
  let name := a.toList.takeWhile (· != '=')
  match a.toList.drop name.length with
  | _ :: value => (String.ofList name, some (String.ofList value))
  | [] => (a, none)

/-- Variables in order of their names, as a script that would set them. -/
def listing (start : String) (bindings : List Variable) : String :=
  let sorted := bindings.mergeSort fun a b => inOrder a.name.toList b.name.toList
  World.concatenated (sorted.map fun v =>
    start ++ (if start.isEmpty then "" else " ") ++ v.name
      ++ (match v.value with
        | some value => "=" ++ singleQuoted value
        | none => "") ++ "\n")

def mark (name : String) (has : Variable → Bool) (marked : Variable → Variable) : Builtin :=
  fun _ _ args =>
    withOptions [('p', false)] args fun options args w =>
      if !options.isEmpty || args.isEmpty then
        (w.print (listing name (w.shell.bindings.filter has))).withStatus 0
      else
        args.foldl (fun w a =>
          if !w.isRunning then w
          else
            let (name, value) := splitSetting a
            match value, w.binding? name with
            | none, some v => w.restoreVariable name (some (marked v))
            | value, _ => w.assign (marked ⟨name, value, false, false, false⟩)) (w.withStatus 0)

/-- Lets programs see variables. -/
def exportAll : Builtin := mark "export" (·.exported) ({ · with exported := true })

def protectAll : Builtin := mark "readonly" (·.readOnly) ({ · with readOnly := true })

/-- Declares variables of a function, which get back their old values at its end;
    a hyphen stands for all options. -/
def declareLocal : Builtin := fun _ _ args w =>
  if w.shell.locals.isEmpty then w.fail "not in a function"
  else
    args.foldl (fun w a =>
      if !w.isRunning then w
      else if a = "-" then w.keep (.options w.shell.options)
      else
        let (name, value) := splitSetting a
        if isName name.toList then w.makeLocal name value false
        else w.fail (name ++ ": bad variable name")) (w.withStatus 0)

/-- Removes variables or functions. -/
def unset : Builtin := fun _ _ args =>
  withOptions [('v', false), ('f', false)] args fun options names w =>
    let isFunction := (options.getLast?.map (·.1)) == some 'f'
    names.foldl (fun w name =>
      if !w.isRunning then w
      else if isFunction then
        w.mapShell fun s => { s with functions := s.functions.filter (·.1 != name) }
      else w.assign ⟨name, none, false, false, false⟩) (w.withStatus 0)

/-- Sets options and arguments, or shows the variables. -/
def set : Builtin := fun _ _ args w =>
  if args.isEmpty then
    (w.print (listing "" (w.shell.bindings.filter (·.value.isSome)))).withStatus 0
  else match w.setOptions false args with
    | .error e => w.fail e
    | .ok (options, w) =>
      let w := w.withStatus 0
      if options.rest.isEmpty && options.ending != .marked then w
      else w.mapShell ({ · with arguments := options.rest, optionPlace := .start })

/-! ## Reading options -/

/-- What was found where the search for options went on. -/
inductive OptionFound where
  | none
  | letter (c : Char) (argument : String)
  | unknown (c : Char)
  /-- A letter without the argument it needs. -/
  | missing (c : Char)
  deriving DecidableEq, Repr

/-- Whether a letter was asked for, and whether an argument belongs to it. -/
def askedFor? (wanted : List Char) (c : Char) : Option Bool :=
  match wanted with
  | [] => none
  | d :: ':' :: rest => if d = c then some true else askedFor? rest c
  | d :: rest => if d = c then some false else askedFor? rest c

def nextOption (wanted : List Char) (args : List String) (place : OptionPlace) :
    OptionFound × OptionPlace :=
  let current := if place.next ≤ 1 then [] else
    match place.used with
    | none => []
    | some used => ((args[place.next - 2]?).getD "").toList.drop used
  let take := fun (next used : Nat) (c : Char) (rest : List Char) =>
    let after : OptionPlace := ⟨next, some (used + 1)⟩
    match askedFor? wanted c with
    | none => (OptionFound.unknown c, after)
    | some false => (.letter c "", after)
    | some true =>
      if !rest.isEmpty then (.letter c (String.ofList rest), ⟨next, none⟩)
      else match args[next - 1]? with
        | some a => (.letter c a, ⟨next + 1, none⟩)
        | none => (.missing c, ⟨next, none⟩)
  match current with
  | c :: rest => take place.next (place.used.getD 0) c rest
  | [] =>
    match ((args[place.next - 1]?).getD "").toList with
    | ['-', '-'] => (.none, ⟨place.next + 1, none⟩)
    | '-' :: c :: rest => take (place.next + 1) 1 c rest
    | _ => (.none, ⟨place.next, none⟩)

/-- Reads the next option of the shell's arguments or of others. -/
def getOption : Builtin := fun _ _ args =>
  withArguments args fun args w =>
    match args with
    | wanted :: name :: others =>
      let args := if others.isEmpty then w.shell.arguments else others
      let place := if args.length + 1 < w.shell.optionPlace.next then OptionPlace.start
        else w.shell.optionPlace
      let isQuiet := wanted.toList.head? == some ':'
      let letters := if isQuiet then wanted.toList.drop 1 else wanted.toList
      let (found, place) := nextOption letters args place
      let tell := fun (message : String) (c : Char) (w : World) =>
        if isQuiet then w.setVariable "OPTARG" (String.singleton c)
        else (w.write 2 message).store ⟨"OPTARG", none, false, false, false⟩
      let (shown, w) := match found with
        | .none => ("?", w)
        | .letter c a => (String.singleton c, w.setVariable "OPTARG" a)
        | .unknown c => ("?", tell ("Illegal option -" ++ String.singleton c ++ "\n") c w)
        | .missing c =>
          (if isQuiet then ":" else "?",
            tell ("No arg for -" ++ String.singleton c ++ " option\n") c w)
      if !w.isRunning then w
      else
        let w := w.setVariable "OPTIND" (Number.natText place.next)
        let w := if w.isRunning then w.assign ⟨name, some shown, false, false, false⟩ else w
        (w.mapShell ({ · with optionPlace := place })).withStatus
          (if !w.isRunning then 2 else if found == .none then 1 else 0)
    | _ => w.fail "Usage: getopts optstring var [arg]"

/-! ## Reading lines -/

/-- What a line read from the input is, as pieces: outside escapes it may be cut
    into fields.  The result also tells what is left of the input and whether the
    line was ended; `fuel` bounds the length of the line. -/
def lineWith (isRaw : Bool) : Nat → List Char → List Piece × List Char × Bool
  | 0, s => ([], s, false)
  | fuel + 1, s =>
    match s with
    | [] => ([], [], false)
    | '\n' :: rest => ([], rest, true)
    | '\\' :: rest =>
      if isRaw then
        let (more, left, ended) := lineWith isRaw fuel rest
        (.char '\\' false :: more, left, ended)
      else
        match rest.dropWhile (· == argumentEnd) with
        | [] => ([], [], false)
        | '\n' :: rest =>
          let (more, left, ended) := lineWith isRaw fuel rest
          (.stop :: .start false :: more, left, ended)
        | c :: rest =>
          let (more, left, ended) := lineWith isRaw fuel rest
          (.stop :: .char c true :: .start false :: more, left, ended)
    | c :: rest =>
      let (more, left, ended) := lineWith isRaw fuel rest
      (if c = argumentEnd then more else .char c false :: more, left, ended)

def read : Builtin := fun _ _ args =>
  withOptions [('p', true), ('r', false)] args fun options names w =>
    if names.isEmpty then w.fail "arg count"
    else
      let input := w.standardInput?
      let left := (input.map (·.left)).getD []
      let (pieces, rest, ended) :=
        lineWith (options.any (·.1 == 'r')) (left.length + 1) left
      let w := match input with
        | none => w
        | some i =>
          let w := w.setLeft i.id rest
          if ended then w else w.waitUntil i.ending
      let fields := cutPieces w.separators (some names.length) (.start false :: pieces ++ [.stop])
      let values := fields.map fun field => markText field
      let w := (names.zip (values ++ List.replicate names.length "")).foldl (fun w (name, value) =>
        if w.isRunning then w.assign ⟨name, some value, false, false, false⟩ else w) w
      if w.isRunning then w.withStatus (if ended then 0 else 1) else w

end Builtin

end SourceCheck.Shell
