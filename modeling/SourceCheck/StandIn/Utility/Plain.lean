import SourceCheck.Calendar.Moment
import SourceCheck.StandIn.Shell.Printf
import SourceCheck.StandIn.Utility.Content

/-! # Small utilities

    Utilities that write their arguments or what is known about the process and the
    system, that wait, and that do nothing but succeed or fail.
-/

namespace SourceCheck.Utility

open SourceCheck SourceCheck.Text SourceCheck.Shell SourceCheck.Number

/-! ## Writing arguments -/

/-- The letters that `echo` takes for itself at the start of its arguments: whether
    the line is left open, whether escapes are read, and the other arguments. -/
def echoLetters : Bool → Bool → List String → Bool × Bool × List String
  | isOpen, escapes, [] => (isOpen, escapes, [])
  | isOpen, escapes, a :: rest =>
    match a.toList with
    | '-' :: c :: cs =>
      if (c :: cs).all fun c => c == 'n' || c == 'e' || c == 'E' then
        let escapes := (c :: cs).foldl (fun e c =>
          if c == 'e' then true else if c == 'E' then false else e) escapes
        echoLetters (isOpen || (c :: cs).contains 'n') escapes rest
      else (isOpen, escapes, a :: rest)
    | _ => (isOpen, escapes, a :: rest)

def octalEscape (octet : Char) : List Char :=
  let n := octet.toNat
  let digit := fun (k : Nat) => Char.ofNat (0x30 + k % 8)
  ['\\', digit (n / 64), digit (n / 8), digit n]

/-- A text in which escapes of hexadecimal numbers, and that of the escape character, are
    written as octal ones; `zero` is what stands in front of the octal digits, and `fuel`
    bounds the characters. -/
def octalEscapes (zero : List Char) : Nat → List Char → List Char
  | 0, s => s
  | fuel + 1, s =>
    let octal := fun (c : Char) => '\\' :: zero ++ (octalEscape c).drop 1
    match s with
    | '\\' :: c :: rest =>
      let size := if c = 'x' then 2 else if c = 'u' then 4 else if c = 'U' then 8 else 0
      let ds := (rest.take size).takeWhile isHexadecimal
      if c = 'e' then octal (Char.ofNat 27) ++ octalEscapes zero fuel rest
      else if ds.isEmpty || (c != 'x' && ds.length < size) then
        '\\' :: c :: octalEscapes zero fuel rest
      else
        let n := hexadecimalValue ds
        let octets := if c = 'x' then [Char.ofNat n]
          else (Utf8.encode (String.singleton (Char.ofNat n))).map fun b => Char.ofNat b.toNat
        octets.flatMap octal ++ octalEscapes zero fuel (rest.drop ds.length)
    | c :: rest => c :: octalEscapes zero fuel rest
    | [] => []

def echo : Utility := fun _ args w =>
  let (isOpen, escapes, words) := echoLetters false false args
  let whole := spaced words
  let (s, stop) :=
    if escapes then unescape (String.ofList (octalEscapes ['0'] whole.length whole.toList))
    else (whole, false)
  (w.print (if isOpen || stop then s else s ++ "\n")).withStatus 0

/-- The complaint about an argument in the words of the utility. -/
def reworded (w : World) (complaint : String) : String :=
  let cs := complaint.toList
  let word := fun (n : Nat) => quotedWord w (String.ofList (cs.take (cs.length - n)))
  let ends := fun (s : String) => s.toList.isSuffixOf cs
  let numeric := ": expected numeric value"
  let range := ": Numerical result out of range"
  let partly := ": not completely converted"
  if ends numeric then word numeric.length ++ ": expected a numeric value"
  else if ends range then word range.length ++ range
  else if ends partly then word partly.length ++ ": value not completely converted"
  else complaint

def hasNoField : List Char → Bool
  | '%' :: '%' :: rest => hasNoField rest
  | '%' :: _ => false
  | _ :: rest => hasNoField rest
  | [] => true

/-- A template up to an escape that ends it, and whether there is one. -/
def upToStop : List Char → List Char × Bool
  | '\\' :: 'c' :: _ => ([], true)
  | '\\' :: c :: rest =>
    let (more, isStopped) := upToStop rest
    ('\\' :: c :: more, isStopped)
  | c :: rest =>
    let (more, isStopped) := upToStop rest
    (c :: more, isStopped)
  | [] => ([], false)

def printf : Utility := fun name args w =>
  let args := if args.head? == some "--" then args.drop 1 else args
  match args with
  | template :: rest =>
    let (body, isStopped) := upToStop template.toList
    let plain := hasNoField body
    let template := String.ofList (octalEscapes [] body.length body)
    let (s, complaints, fault) := Shell.printf template (if isStopped && plain then [] else rest)
    let complaints := match plain && !isStopped, rest with
      | true, extra :: _ =>
        complaints ++ ["warning: ignoring excess arguments, starting with " ++ quotedWord w extra]
      | _, _ => complaints
    let isWarned := !complaints.isEmpty && complaints.all fun c => startsWith c "warning: "
    let w := complaints.foldl (fun w c => complain name (reworded w c) w) ((w.print s).withStatus 0)
    match fault with
    | none => if isWarned then w.withStatus 0 else w
    | some f =>
      let cs := f.toList
      let directive := cs.take (cs.length - ": invalid directive".length)
      complain name (String.ofList directive ++ ": invalid conversion specification") w
  | [] => complainUsage 1 name "missing operand" w

/-- How many lines are written by a program that never stops: more than any reader
    takes. -/
def endlessLines : Nat := 200000

/-- Writes a line again and again until nobody reads. -/
def yes : Utility := fun _ args w =>
  let args := if args.head? == some "--" then args.drop 1 else args
  let line := (if args.isEmpty then "y" else spaced args) ++ "\n"
  let w := put (List.replicate endlessLines line.toList).flatten w
  match w.channel? 1 with
  | some (.pipe id) => if id = outputPipe then w.withFlow .halted else w.withStatus 141
  | _ => w.withFlow .halted

/-! ## Waiting -/

/-- The microseconds that a decimal of seconds writes, perhaps with a unit. -/
def microseconds? (s : String) : Option Nat :=
  let cs := s.toList
  let (factor, body) := match cs.getLast? with
    | some 's' => (1, cs.dropLast)
    | some 'm' => (60, cs.dropLast)
    | some 'h' => (3600, cs.dropLast)
    | some 'd' => (86400, cs.dropLast)
    | _ => (1, cs)
  match readDecimal body with
  | some (n, e, []) =>
    if 0 ≤ e then some (n * Nat.pow 10 e.toNat * 1000000 * factor)
    else some (n * 1000000 * factor / Nat.pow 10 (-e).toNat)
  | _ => none

/-- An interval without an end. -/
def isEndless (s : String) : Bool :=
  ["infinity", "inf", "infinityd", "infinitys", "infs", "infd"].contains (s.map Char.toLower)

def sleep : Utility := withOptions [] fun name o w =>
  if o.args.isEmpty then complainUsage 1 name "missing operand" w
  else match o.args.filter fun a => !isEndless a && (microseconds? a).isNone with
    | [] =>
      if o.args.any isEndless then w.withFlow .halted
      else
        let time := (o.args.filterMap microseconds?).foldl (· + ·) w.shell.clock
        (w.waitUntil time).withStatus 0
    | bad =>
      let w := bad.dropLast.foldl (fun w a =>
        complain name ("invalid time interval " ++ quotedWord w a) w) w
      complainUsage 1 name ("invalid time interval " ++ quotedWord w (bad.getLast?.getD "")) w

/-! ## The process and the system -/

/-- Shows the environment, or some of its variables. -/
def printenv : Utility := withOptionsOr 2 [flag '0' "null"] fun _ o w =>
  let ending := if o.has "null" then [Char.ofNat 0] else ['\n']
  let env := w.environment
  if o.args.isEmpty then
    (putAll (env.map fun (name, v) => name.toList ++ '=' :: v.toList ++ ending) w).withStatus 0
  else
    o.args.foldl (fun w name =>
      match env.lookup name with
      | some v => put (v.toList ++ ending) w
      | none => w.withStatus 1) (w.withStatus 0)

/-- Shows the working directory. -/
def pwd : Utility := withOptions [flag 'L' "logical", flag 'P' "physical"] fun name o w =>
  let logical := if o.lastOf? ["logical", "physical"] == some "logical" then
      (w.environment.lookup "PWD").bind fun path =>
        match w.placeOf path with
        | .ok ⟨place, some (.directory _)⟩ =>
          if startsWith path "/" && place == w.shell.cwd then some path else none
        | _ => none
    else none
  let w := if o.args.isEmpty then w else complain name "ignoring non-option arguments" w
  (w.print (logical.getD w.directoryText ++ "\n")).withStatus 0

def complainUser (name user : String) (w : World) : World :=
  complain name (quotedWord w user ++ ": no such user") w

def groups : Utility := withOptions [] fun name o w =>
  if o.args.isEmpty then (w.print "root\n").withStatus 0
  else o.args.foldl (fun w user =>
    if user = "root" then w.print "root : root\n" else complainUser name user w) (w.withStatus 0)

/-- Shows the kind of the machine. -/
def arch : Utility := withOptions [] fun name o w =>
  match o.args with
  | [] => (w.print "x86_64\n").withStatus 0
  | extra :: _ => complainExtra name extra w

/-- Tells that nobody has logged in. -/
def logname : Utility := withOptions [] fun name o w =>
  match o.args with
  | [] => complain name "no login name" w
  | extra :: _ => complainExtra name extra w

/-- Shows who runs the process. -/
def identity : Utility := withOptions
  [flag 'u' "user", flag 'g' "group", flag 'G' "groups", flag 'n' "name", flag 'r' "real",
    flag 'a' "", flag 'z' "zero"]
  fun name o w =>
    let isChosen := o.has "user" || o.has "group" || o.has "groups"
    let s := if isChosen then if o.has "name" then "root" else "0"
      else "uid=0(root) gid=0(root) groups=0(root)"
    if (o.has "name" || o.has "real") && !isChosen then
      complain name "cannot print only names or real IDs in default format" w
    else
      let users := if o.args.isEmpty then ["root"] else o.args
      users.foldl (fun w user =>
        if user = "root" || user = "0" then w.print (s ++ "\n") else complainUser name user w)
        (w.withStatus 0)

def whoami : Utility := withOptions [] fun name o w =>
  match o.args with
  | [] => (w.print "root\n").withStatus 0
  | extra :: _ => complainExtra name extra w

/-- Shows the name of the system. -/
def uname : Utility := withOptions
  [flag 'a' "all", flag 's' "kernel-name", flag 'n' "nodename", flag 'r' "kernel-release",
    flag 'v' "kernel-version", flag 'm' "machine", flag 'p' "processor",
    flag 'i' "hardware-platform", flag 'o' "operating-system"]
  fun name o w =>
    let parts := [("kernel-name", "Linux"), ("nodename", "localhost"), ("kernel-release", "6.1.0"),
      ("kernel-version", "#1 SMP"), ("machine", "x86_64"), ("operating-system", "GNU/Linux")]
    let shown := parts.filterMap fun (key, s) => if o.has "all" || o.has key then some s else none
    match o.args with
    | extra :: _ => complainExtra name extra w
    | [] =>
      let unknown := !o.has "all" && (o.has "processor" || o.has "hardware-platform")
      let shown := if unknown then shown ++ ["unknown"] else shown
      (w.print ((if shown.isEmpty then "Linux" else spaced shown) ++ "\n")).withStatus 0

/-- Tells that the standard input is no terminal. -/
def tty : Utility := withOptionsOr 2 [flag 's' "silent"] fun _ o w =>
  (if o.has "silent" then w else w.print "not a tty\n").withStatus 1

end SourceCheck.Utility
