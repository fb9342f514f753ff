import SourceCheck.StandIn.Utility.Content

/-! # Names of files

    Utilities that take paths apart, find out where they lead, and make names for
    new files.
-/

namespace SourceCheck.Utility

open SourceCheck SourceCheck.Text SourceCheck.Shell

/-! ## Parts of paths -/

/-- A path without slashes at its end; one that is made of slashes is left as one
    slash. -/
def withoutEndSlashes (s : List Char) : List Char :=
  let trimmed := (s.reverse.dropWhile (· == '/')).reverse
  if trimmed.isEmpty then s.take 1 else trimmed

def lastName (s : List Char) : List Char :=
  let s := withoutEndSlashes s
  if s = ['/'] then s else (s.reverse.takeWhile (· != '/')).reverse

/-- A path without its last name. -/
def parentName (s : List Char) : List Char :=
  let up := withoutEndSlashes s |>.reverse.dropWhile (· != '/')
  let trimmed := (up.dropWhile (· == '/')).reverse
  if !trimmed.isEmpty then trimmed else if s.head? == some '/' then ['/'] else ['.']

def withoutSuffix (suffix name : List Char) : List Char :=
  if suffix.length < name.length && suffix.isSuffixOf name && name != ['/'] then
    name.take (name.length - suffix.length)
  else name

/-- What ends each of the names that are written. -/
def nameEnd (o : Options) : List Char := if o.has "zero" then [Char.ofNat 0] else ['\n']

def withFrontOptions (specs : List OptionSpec) (act : String → Options → World → World) :
    Utility := fun name args w =>
  match readFrontOptions specs args with
  | .ok o => act name o w
  | .error message => complainUsage 1 name message w

/-- The last name of a path, without an ending if one is given. -/
def basename : Utility := withFrontOptions
  [flag 'a' "multiple", taking 's' "suffix", flag 'z' "zero"]
  fun name o w =>
    let isMany := o.has "multiple" || o.has "suffix"
    let write := fun (suffix : String) (paths : List String) =>
      (putAll (paths.map fun p =>
        withoutSuffix suffix.toList (lastName p.toList) ++ nameEnd o) w).withStatus 0
    match o.args with
    | [] => complainUsage 1 name "missing operand" w
    | [path] => write ((o.last? "suffix").getD "") [path]
    | paths =>
      if isMany then write ((o.last? "suffix").getD "") paths
      else match paths with
        | [path, suffix] => write suffix [path]
        | _ => complainExtra name ((paths.drop 2).head?.getD "") w

def dirname : Utility := withFrontOptions [flag 'z' "zero"] fun name o w =>
  if o.args.isEmpty then complainUsage 1 name "missing operand" w
  else (putAll (o.args.map fun p => parentName p.toList ++ nameEnd o) w).withStatus 0

/-! ## Where paths lead -/

/-- What has to be there. -/
inductive Presence where
  | all
  | allButLast
  | nothing
  deriving DecidableEq, Repr

/-- The place that names lead to from a place, links followed; `fuel` bounds the
    steps. -/
def follow (fs : FileSystem) (presence : Presence) :
    Nat → Place → List String → Except SystemError Place
  | 0, _, _ => .error .linkLoop
  | _, place, [] => .ok place
  | fuel + 1, place, step :: rest =>
    if step = "" ∨ step = "." then
      match fs.entry? place, presence with
      | some (.directory _), _ | none, _ | _, .nothing => follow fs presence fuel place rest
      | some _, _ => .error .notDirectory
    else if step = ".." then follow fs presence fuel place.dropLast rest
    else
      let next := place ++ [step]
      let isLast := rest.all (·.isEmpty)
      match fs.entry? next with
      | some (.link target) =>
        follow fs presence fuel (if startsWith target "/" then [] else place)
          (FileSystem.steps target ++ rest)
      | some (.directory _) => follow fs presence fuel next rest
      | some _ =>
        if rest.isEmpty || presence == .nothing then follow fs presence fuel next rest
        else .error .notDirectory
      | none =>
        if presence == .nothing || (presence == .allButLast && isLast) then
          follow fs presence fuel next rest
        else .error .notFound

/-- How many steps a walk may take. -/
def followLimit : Nat := 4000

/-- The path without links that a path leads to. -/
def canonical (w : World) (presence : Presence) (path : String) : Except SystemError String :=
  let text := World.pathText path
  if text.isEmpty then .error .notFound
  else
    let start := if startsWith text "/" then [] else w.shell.cwd
    (follow w.machine.files presence followLimit start (FileSystem.steps text)).map fun place =>
      ofText (placePath place).text

/-- The path with its points left out, links not followed. -/
def withoutPoints (w : World) (path : String) : String :=
  let text := World.pathText path
  let start := if startsWith text "/" then [] else w.shell.cwd
  let place := (FileSystem.steps text).foldl (fun (place : Place) step =>
    if step = "" ∨ step = "." then place
    else if step = ".." then place.dropLast
    else place ++ [step]) start
  ofText (placePath place).text

/-- One path as seen from another, both without links. -/
def relativeTo (base path : String) : String :=
  let names := fun (s : String) => (FileSystem.steps s).filter (!·.isEmpty)
  let rec apart : List String → List String → List String × List String
    | a :: as, b :: bs => if a == b then apart as bs else (a :: as, b :: bs)
    | as, bs => (as, bs)
  let (up, down) := apart (names base) (names path)
  match up.map (fun _ => "..") ++ down with
  | [] => "."
  | steps => joinWith "/" steps

/-- Shows where paths lead. -/
def realpath : Utility := withOptions
  [flag 'e' "canonicalize-existing", flag 'm' "canonicalize-missing", flag 'L' "logical",
    flag 'P' "physical", flag 'q' "quiet", flag 's' "strip", flag 's' "no-symlinks",
    flag 'z' "zero", wordTaking "relative-to", wordTaking "relative-base"]
  fun name o w =>
    if o.args.isEmpty then complainUsage 1 name "missing operand" w
    else
      let presence : Presence :=
        match o.lastOf? ["canonicalize-existing", "canonicalize-missing"] with
        | some "canonicalize-existing" => .all
        | some _ => .nothing
        | none => .allButLast
      let isLexical := o.has "strip" || o.has "no-symlinks"
      -- a path taken as text must lead somewhere as well
      let resolve := fun path =>
        if isLexical then
          (canonical w presence (withoutPoints w path)).map fun _ => withoutPoints w path
        else canonical w presence path
      let base := (o.last? "relative-to").map fun b => (resolve b).toOption.getD b
      o.args.foldl (fun w path =>
        match resolve path with
        | .ok found =>
          let shown := match base with
            | some b => relativeTo b found
            | none => found
          put (shown.toList ++ nameEnd o) w
        | .error e => if o.has "quiet" then w.withStatus 1 else complainFile name path e w)
        (w.withStatus 0)

/-- Shows the target of a link, or where paths lead. -/
def readlink : Utility := withOptions
  [flag 'f' "canonicalize", flag 'e' "canonicalize-existing", flag 'm' "canonicalize-missing",
    flag 'n' "no-newline", flag 'q' "quiet", flag 's' "silent", flag 'v' "verbose", flag 'z' "zero"]
  fun name o w =>
    let presence? : Option Presence :=
      (o.lastOf? ["canonicalize", "canonicalize-existing", "canonicalize-missing"]).map fun k =>
        if k == "canonicalize" then .allButLast
        else if k == "canonicalize-existing" then .all else .nothing
    let target := fun (w : World) (path : String) =>
      match presence? with
      | some presence => canonical w presence path
      | none =>
        match w.linkPlaceOf path with
        | .ok ⟨_, some (.link target)⟩ => .ok (ofText target)
        | .ok ⟨_, some _⟩ => .error .invalidArgument
        | .ok ⟨_, none⟩ => .error .notFound
        | .error e => .error e
    let ending := if o.has "no-newline" && o.args.length == 1 then [] else nameEnd o
    if o.args.isEmpty then complainUsage 1 name "missing operand" w
    else
      o.args.foldl (fun w path =>
        match target w path with
        | .ok found => put (found.toList ++ ending) w
        | .error e =>
          if o.has "verbose" then complainFile name path e w else w.withStatus 1)
        (w.withStatus 0)

/-! ## New names -/

def lettersOf : Nat → Nat → List Char
  | 0, _ => []
  | count + 1, n =>
    let d := n % 62
    let c := if d < 10 then 0x30 + d else if d < 36 then 0x41 + (d - 10) else 0x61 + (d - 36)
    Char.ofNat c :: lettersOf count (n / 62 * 7 + d * 31 + 17)

/-- A template with its last letters `X` in a row replaced, if there are three. -/
def fillTemplate (n : Nat) (suffix template : List Char) : Option (List Char) :=
  let found :=
    if suffix.isEmpty then (template.reverse.takeWhile (· != 'X')).reverse else []
  let stem := template.take (template.length - found.length)
  let marks := stem.reverse.takeWhile (· == 'X')
  if marks.length < 3 then none
  else some (stem.take (stem.length - marks.length) ++ lettersOf marks.length n ++ found ++ suffix)

/-- Makes a file or a directory with a name that is not there. -/
def mktemp : Utility := withOptions
  [flag 'd' "directory", flag 'u' "dry-run", flag 'q' "quiet", taking 'p' "",
    (none, "tmpdir", .perhaps), wordTaking "suffix", flag 't' ""]
  fun name o w =>
    match o.args with
    | _ :: _ :: _ => complainUsage 1 name "too many templates" w
    | args =>
      let template := args.head?.getD "tmp.XXXXXXXXXX"
      let general := match (w.environment.lookup "TMPDIR") with
        | some d => if d.isEmpty then "/tmp" else d
        | none => "/tmp"
      let inFolder := args.isEmpty || o.has "p" || o.has "tmpdir" || o.has "t"
      let folder := match o.lastOf? ["p", "tmpdir"] with
        | some key => match o.last? key with
          | some d => if d.isEmpty then general else d
          | none => general
        | none => general
      let (n, w) := w.newId
      match fillTemplate (n * 7919 + 104729) ((o.last? "suffix").getD "").toList template.toList with
      | none => complain name ("too few X's in template " ++ quotedWord w template) w
      | some made =>
        let path := if inFolder then joinText folder (String.ofList made) else String.ofList made
        let what := if o.has "directory" then "directory" else "file"
        let refuse := fun (e : SystemError) =>
          if o.has "quiet" then w.withStatus 1
          else complain name ("failed to create " ++ what ++ " via template "
            ++ quotedWord w (if inFolder then joinText folder template else template)
            ++ ": " ++ e.wording) w
        match w.linkPlaceOf path with
        | .error e => refuse e
        | .ok ⟨_, some _⟩ => refuse .alreadyExists
        | .ok ⟨place, none⟩ =>
          let w := if o.has "dry-run" then w
            else w.putEntry place (if o.has "directory" then .directory 0o700 else .file [] 0o600)
          (w.print (path ++ "\n")).withStatus 0

/-! ## Programs -/

def isProgram (w : World) (path : String) : Bool :=
  match w.stat path with
  | .ok e => e.isFile && w.machine.files.mayRun e
  | .error _ => false

/-- Shows where programs are found. -/
def which : Utility := fun name args w =>
  match readFrontOptions [flag 'a' "", flag 's' ""] args with
  | .error message =>
    let letter := (message.toList.reverse.drop 1).take 1
    ((w.write 2 ("Illegal option -" ++ String.ofList letter ++ "\n")).print
      ("Usage: " ++ name ++ " [-a] args\n")).withStatus 2
  | .ok o =>
    let directories := splitAt ':' ((w.environment.lookup "PATH").getD "")
    o.args.foldl (fun w program =>
      let paths := if program.toList.contains '/' then [program]
        else directories.map fun d => (if d.isEmpty then "." else d) ++ "/" ++ program
      match (paths.filter (isProgram w)), o.has "a" with
      | [], _ => w.withStatus 1
      | found, true => found.foldl (fun w path => w.print (path ++ "\n")) w
      | path :: _, false => w.print (path ++ "\n"))
      (w.withStatus (if o.args.isEmpty then 1 else 0))

end SourceCheck.Utility
