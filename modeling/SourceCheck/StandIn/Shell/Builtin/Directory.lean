import SourceCheck.StandIn.FileMode
import SourceCheck.StandIn.Shell.Builtin.Basic

/-! # Commands on the working directory

    A shell remembers the path by which it entered its working directory, links
    and all, and goes up along that path.
-/

namespace SourceCheck.Shell

open SourceCheck SourceCheck.Text

namespace Builtin

/-- The last of the options that choose between paths with links and without. -/
def isPhysical (options : List (Char × String)) : Bool :=
  (options.getLast?.map (·.1)) == some 'P'

/-- The options that choose between paths with links and without. -/
def linkLetters : List Letter := [('L', false), ('P', false)]

def rootOf (path : List Char) : List Char :=
  match path with
  | '/' :: '/' :: '/' :: _ => ['/']
  | '/' :: '/' :: _ => ['/', '/']
  | '/' :: _ => ['/']
  | _ => []

def stepsOf (path : List Char) : List (List Char) := (cutAt '/' path).filter (!·.isEmpty)

/-- A path as seen from a directory, with the steps up taken in it. -/
def logicalPath (current target : List Char) : String :=
  let (root, before) := if target.head? = some '/' then (rootOf target, [])
    else (rootOf current, stepsOf current)
  let names := (stepsOf target).foldl (fun names step =>
    if step = ['.'] then names
    else if step = ['.', '.'] then names.dropLast
    else names ++ [step]) before
  String.ofList (root ++ ['/'].intercalate names)

/-- A directory is entered; nothing if that is not possible. -/
def enter? (physical : Bool) (path : String) (w : World) : Option World :=
  let logical := logicalPath w.shell.directory.toList path.toList
  match w.enter (if physical then path else logical) with
  | .ok place =>
    let w := w.setExported "OLDPWD" w.shell.directory
    let w := w.mapShell ({ · with cwd := place })
    let directory := if physical then w.directoryText else logical
    some ((w.mapShell ({ · with directory := directory })).setExported "PWD" directory)
  | .error _ => none

/-- The directory of a name below those of the search path for directories, and
    whether its path is to be shown. -/
def searched? (w : World) (name : String) : List String → Option (String × Bool)
  | [] => none
  | directory :: rest =>
    let path := if directory.isEmpty then name else joinText directory name
    match w.stat path with
    | .ok (.directory _) => some (path, !directory.isEmpty)
    | _ => searched? w name rest

/-- A path starts at the root or with a point as a step. -/
def isAnchored (path : String) : Bool :=
  let first := path.toList.takeWhile (· != '/')
  first == ['.'] || first == ['.', '.'] || path.toList.head? == some '/'

/-- Enters a directory; a hyphen stands for the one before. -/
def cd : Builtin := fun _ _ args =>
  withOptions linkLetters args fun options args w =>
    let isBack := args.head? == some "-"
    let named := if isBack then (w.named? "OLDPWD").getD ""
      else args.head?.getD ((w.named? "HOME").getD "")
    let target := if named.isEmpty then "." else named
    let found := if isAnchored target && !named.isEmpty then none
      else (w.named? "CDPATH").bind fun path => searched? w target (splitAt ':' path)
    let (path, isShown) := found.getD (target, false)
    match enter? (isPhysical options) path w with
    | some w =>
      if !w.isRunning then w
      else
        (if isBack || isShown then w.print (w.shell.directory ++ "\n") else w).withStatus 0
    | none => w.fail ("can't cd to " ++ named)

def pwd : Builtin := fun _ _ args =>
  withOptions linkLetters args fun options _ w =>
    let path := if isPhysical options then w.directoryText else w.shell.directory
    (w.print (path ++ "\n")).withStatus 0

/-- A number as octal digits, at least four of them. -/
def octalText (n : Nat) : String :=
  String.ofList ((List.range 4).reverse.map fun i => Char.ofNat (0x30 + n / Nat.pow 8 i % 8))

/-- Shows or sets the bits that new files do not get. -/
def mask : Builtin := fun _ _ args =>
  withOptions [('S', false)] args fun options args w =>
    let current := w.shell.mask
    match args with
    | [] =>
      let allowed := 0o777 ^^^ current
      let shown := if options.isEmpty then octalText current
        else "u=" ++ FileMode.allowed (allowed / 64) ++ ",g=" ++ FileMode.allowed (allowed / 8 % 8)
          ++ ",o=" ++ FileMode.allowed (allowed % 8)
      (w.print (shown ++ "\n")).withStatus 0
    | a :: _ =>
      let cs := a.toList
      if cs.head?.any isDigitChar then
        if cs.all FileMode.isOctal then
          let n := octalValue cs
          (w.mapShell ({ · with mask := n % 0o1000 })).withStatus 0
        else w.fail ("Illegal number: " ++ a)
      else match FileMode.changes? cs with
        | some changes =>
          let allowed := FileMode.applyAll false 0 changes (0o777 ^^^ current) % 0o1000
          (w.mapShell ({ · with mask := 0o777 ^^^ allowed })).withStatus 0
        | none => w.fail ("Illegal mode: " ++ a)

end Builtin

end SourceCheck.Shell
