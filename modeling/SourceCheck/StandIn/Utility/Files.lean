import SourceCheck.StandIn.FileMode
import SourceCheck.StandIn.Utility.Dates
import SourceCheck.StandIn.Utility.Names

/-! # Making and removing files

    Utilities that make files and directories, remove them, and change their
    permissions and sizes.
-/

namespace SourceCheck.Utility

open SourceCheck SourceCheck.Text SourceCheck.Shell

/-! ## Making -/

def shellWord (path : String) : String := shellQuoted path

/-- A failure about a path, which stands in the quotes of a shell. -/
def complainAbout (name what path : String) (e : SystemError) (w : World) : World :=
  complain name (what ++ " " ++ shellWord path ++ ": " ++ e.wording) w

/-- Asks whether something is to be done, which a line that begins with `y` affirms; what is
    behind that line is left. -/
def askWhether (question : String) (w : World) : Bool × World :=
  let (s, w) := (w.write 2 question).readAll
  let line := s.takeWhile (· != '\n')
  let w := match w.standardInput? with
    | some i => w.setLeft i.id (s.drop (line.length + 1))
    | none => w
  (line.head? == some 'y' || line.head? == some 'Y', w)

def typeName : Entry → String
  | .file [] _ => "regular empty file"
  | .file _ _ | .program _ => "regular file"
  | .directory _ => "directory"
  | .link _ => "symbolic link"
  | .device _ => "character special file"

def namesIn (w : World) (place : Place) : List (List Char) :=
  ((w.machine.files.names place).map fun n => (ofText n).toList).mergeSort inOrder

/-- What stands at a path once it is changed, its links followed as wanted. -/
def entryAt (follows : Bool) (w : World) (path : String) :
    Except SystemError (Place × Option Entry) :=
  (if follows then w.placeOf path else w.linkPlaceOf path).map fun found =>
    (found.place, found.entry)

/-- Only a directory can be at a path that ends so. -/
def endsInSlash (path : String) : Bool := path.toList.getLast? == some '/'

def isFolder (w : World) (path : String) : Bool :=
  w.machine.files.isDirectory w.shell.cwd (World.pathText path)

/-- The instant that digits write: month, day, hour and minute in two digits each, with
    the year in front and seconds behind if wanted. -/
def stampInstant? (now : Instant) (s : List Char) : Option Instant :=
  let ds := s.takeWhile isDigitChar
  let two := fun (i : Nat) (ds : List Char) => digitsValue ((ds.drop i).take 2)
  let second? := match s.drop ds.length with
    | [] => some 0
    | ['.', a, b] => if isDigitChar a && isDigitChar b then some (digitsValue [a, b]) else none
    | _ => none
  let (year, rest) : Int × List Char := match ds.length with
    | 8 => (now.civil.1, ds)
    | 10 => (fullYear (ds.take 2), ds.drop 2)
    | _ => (digitsValue (ds.take 4), ds.drop 4)
  let (month, day, hour, minute) := (two 0 rest, two 2 rest, two 4 rest, two 6 rest)
  match second? with
  | none => none
  | some second =>
    if !([8, 10, 12].contains ds.length) || month = 0 || 12 < month || day = 0
        || Calendar.daysInMonth year.toNat month < day || 23 < hour || 59 < minute || 60 < second then
      none
    else some ⟨daysFromCivil year month day * 86400 + (hour * 3600 + minute * 60 + second : Nat)⟩

/-- The time in microseconds that the options of `touch` ask for, if it is not the
    present. -/
def touchTime (o : Options) (w : World) : Except String (Option Nat) :=
  let micros := fun (t : Instant) => some (t.seconds.toNat * 1000000)
  match o.last? "reference", o.last? "date", o.last? "t" with
  | some path, _, _ =>
    match entryAt true w path with
    | .ok (place, some _) => .ok (some (w.changedAt place))
    | .ok (_, none) => .error ("failed to get attributes of " ++ shellWord path ++ ": "
        ++ SystemError.notFound.wording)
    | .error e => .error ("failed to get attributes of " ++ shellWord path ++ ": " ++ e.wording)
  | none, some s, _ =>
    match instant? (presentOf w) s with
    | some t => .ok (micros t)
    | none => .error ("invalid date format " ++ quotedWord w s)
  | none, none, some s =>
    match stampInstant? (presentOf w) s.toList with
    | some t => .ok (micros t)
    | none => .error ("invalid date format " ++ quotedWord w s)
  | none, none, none => .ok none

/-- Makes files that are not there, and counts others as changed now or at a time that
    is given. -/
def touch : Utility := withOptions
  [flag 'a' "", flag 'c' "no-create", taking 'd' "date", flag 'f' "", flag 'h' "no-dereference",
    flag 'm' "", taking 'r' "reference", taking 't' "", wordTaking "time"]
  fun name o w =>
    match touchTime o w with
    | .error message => complain name message w
    | .ok time? =>
      if o.args.isEmpty then complainUsage 1 name "missing file operand" w
      else
        let stamped := fun (place : Place) (w : World) =>
          match time? with
          | some time => if o.has "a" && !o.has "m" then w else w.setChanged place time
          | none => w
        o.args.foldl (fun w path =>
          match entryAt true w path with
          -- a time of access is not kept, so `-a` alone changes nothing
          | .ok (place, some e) =>
            if o.has "a" && !o.has "m" then w else stamped place (w.putEntry place e)
          | .ok (place, none) =>
            if o.has "no-create" then w
            else stamped place (w.putEntry place (.file [] w.newMode))
          | .error e =>
            let isFree := match w.linkPlaceOf (FileSystem.withoutSlashes path) with
              | .ok ⟨_, none⟩ => true
              | _ => false
            if o.has "no-create" && e == .notFound then w
            else if endsInSlash path && isFree then complainAbout name "setting times of" path e w
            else complainAbout name "cannot touch" path e w)
          (w.withStatus 0)

/-- Makes one directory with some permissions, and tells of it in some words. -/
def makeFolder (name : String) (telling : Option String) (mode : Nat) (path : String) (w : World) :
    Except SystemError World :=
  (w.machine.files.makeDirectory w.shell.cwd (World.pathText path)).map fun files =>
    let w := w.mapMachine ({ · with files := files })
    let w := match w.linkPlaceOf path with
      | .ok ⟨place, _⟩ => w.putEntry place (.directory mode)
      | .error _ => w
    match telling with
    | some words => w.print (name ++ ": " ++ words ++ " " ++ shellWord path ++ "\n")
    | none => w

/-- The paths on the way to a path, the longest one last. -/
def pathsTo (path : String) : List String :=
  let rec go : List Char → List Char → List String
    | before, [] => [String.ofList before.reverse]
    | before, '/' :: rest =>
      let isEnd := before.head?.any (· != '/')
      let here := if isEnd then [String.ofList before.reverse] else []
      if rest.all (· == '/') then (if isEnd then here else [String.ofList ('/' :: before).reverse])
      else here ++ go ('/' :: before) rest
    | before, c :: rest => go (c :: before) rest
  go [] path.toList

/-- Makes a directory with some permissions and those it lies in. -/
def makeFolders (name : String) (telling : Option String) (mode : Nat) :
    List String → World → Except (String × SystemError) World
  | [], w => .ok w
  | path :: rest, w =>
    let here := if rest.isEmpty then mode else w.newFolderMode ||| 0o300
    if isFolder w path then makeFolders name telling mode rest w
    else match makeFolder name telling here path w with
      | .ok w => makeFolders name telling mode rest w
      | .error .alreadyExists =>
        .error (path, if rest.isEmpty then .alreadyExists else .notDirectory)
      | .error e => .error (path, e)

def mkdir : Utility := withOptions
  [taking 'm' "mode", flag 'p' "parents", flag 'v' "verbose"]
  fun name o w =>
    if o.args.isEmpty then complainUsage 1 name "missing operand" w
    else
      let refuse := fun (path : String) (e : SystemError) (w : World) =>
        complain name ("cannot create directory " ++ quotedWord w path ++ ": " ++ e.wording) w
      let telling := if o.has "verbose" then some "created directory" else none
      match (o.last? "mode").map fun m => (m, FileMode.changes? m.toList) with
      | some (m, none) => complain name ("invalid mode " ++ quotedWord w m) w
      | changes =>
        let mode := match changes with
          | some (_, some changes) => FileMode.applyAll true w.shell.mask changes 0o777
          | _ => w.newFolderMode
        o.args.foldl (fun w path =>
          if o.has "parents" then
            match makeFolders name telling mode (pathsTo path) w with
            | .ok w => w
            | .error (place, e) => refuse place e w
          else match makeFolder name telling mode path w with
            | .ok w => w
            | .error e => refuse path e w)
          (w.withStatus 0)

/-! ## Removing -/

/-- Nothing stands at a place and below it any more. -/
def removePlace (place : Place) (w : World) : World :=
  w.mapMachine fun m => { m with files := m.files.remove place }

/-- What of removing is asked for. -/
structure RemovalStyle where
  deep : Bool
  /-- Each removal is asked about. -/
  asks : Bool
  /-- Each removal is told of. -/
  isShown : Bool

/-- Removes what stands at a place and all below it, unless that is not wanted.  A directory in
    which something is left stays.  `fuel` bounds how deep directories lie in one another. -/
def removeTree (name : String) (style : RemovalStyle) : Nat → String → Place → World → World
  | 0, _, _, w => w
  | fuel + 1, path, place, w =>
    let ask := fun (what : String) (w : World) =>
      if style.asks then askWhether (name ++ ": " ++ what ++ " " ++ shellWord path ++ "? ") w
      else (true, w)
    let gone := fun (what : String) (w : World) =>
      let w := removePlace place w
      if style.isShown then w.print (what ++ shellWord path ++ "\n") else w
    match w.machine.files.entry? place with
    | none => w
    | some (.directory _) =>
      let names := namesIn w place
      -- an empty directory is not asked about twice
      let (goes, w) := if names.isEmpty then (true, w) else ask "descend into directory" w
      if !goes then w
      else
        let w := names.foldl (fun w n =>
          removeTree name style fuel (joinText path (String.ofList n))
            (place ++ [World.pathText (String.ofList n)]) w) w
        let (goes, w) := ask "remove directory" w
        if !goes then w
        -- something that was asked about may have stayed
        else if (w.machine.files.names place).isEmpty then gone "removed directory " w
        else complainAbout name "cannot remove" path .notEmpty w
    | some e =>
      let (goes, w) := ask ("remove " ++ typeName e) w
      if goes then gone "removed " w else w

/-- How deep directories may lie in one another. -/
def depthLimit : Nat := 1000

/-- Removes one file, or a directory if that is asked for. -/
def removeOne (name : String) (o : Options) (style : RemovalStyle) (path : String) (w : World) :
    World :=
  let last := String.ofList (lastName path.toList)
  if style.deep && (last == "." || last == "..") then
    complain name ("refusing to remove '.' or '..' directory: skipping " ++ shellWord path) w
  else if style.deep && last == "/" then
    complain name ("it is dangerous to operate recursively on " ++ shellWord path ++ "\n" ++ name
      ++ ": use --no-preserve-root to override this failsafe") w
  else
    let target := if endsInSlash path then w.placeOf path else w.linkPlaceOf path
    let refuse := fun e => complainAbout name "cannot remove" path e w
    let remove := fun place => removeTree name style depthLimit path place w
    match target with
    | .ok ⟨place, some (.directory _)⟩ =>
      if style.deep then remove place
      else if o.has "dir" then
        if (w.machine.files.names place).isEmpty then remove place else refuse .notEmpty
      else refuse .isDirectory
    | .ok ⟨place, some _⟩ => if endsInSlash path then refuse .notDirectory else remove place
    | .ok ⟨_, none⟩ => if o.has "force" then w else refuse .notFound
    | .error e =>
      if o.has "force" && (e == .notFound || e == .notDirectory) then w else refuse e

/-- Whether removals are asked about: each, all at once, or none. -/
inductive Caution where
  | each
  /-- Many, or whole directories, are asked about once. -/
  | once
  | none
  deriving DecidableEq

def cautionOf (o : Options) : Caution :=
  match o.lastOf? ["force", "i", "I", "interactive"] with
  | some "i" => .each
  | some "I" => .once
  | some "interactive" =>
    match (o.given.filter (·.1 == "interactive")).getLast?.bind (·.2) with
    | some "never" | some "no" | some "none" => .none
    | some "once" => .once
    | _ => .each
  | _ => .none

def rm : Utility := withOptions
  [flag 'f' "force", flag 'i' "", flag 'I' "", flag 'r' "recursive", flag 'R' "", flag 'd' "dir",
    flag 'v' "verbose", wordFlag "no-preserve-root", wordFlag "preserve-root",
    wordFlag "one-file-system", (none, "interactive", .perhaps)]
  fun name o w =>
    let deep := o.has "recursive" || o.has "R"
    let count := o.args.length
    let caution := cautionOf o
    if o.args.isEmpty && !o.has "force" then complainUsage 1 name "missing operand" w
    else if o.given.any fun (key, value) => key == "interactive"
        && value.any fun v => !(["never", "no", "none", "once", "always", "yes"].contains v) then
      complainUsage 1 name (wrongChoice w "interactive" ((o.last? "interactive").getD "")
        [["never", "no", "none"], ["once"], ["always", "yes"]]) w
    else
      let (goes, w) :=
        if caution == .once && (deep || 3 < count) then
          askWhether (name ++ ": remove " ++ Number.natText count
            ++ (if count = 1 then " argument" else " arguments")
            ++ (if deep then " recursively? " else "? ")) w
        else (true, w)
      if goes then
        let style : RemovalStyle := ⟨deep, caution == .each, o.has "verbose"⟩
        o.args.foldl (fun w path => removeOne name o style path w) (w.withStatus 0)
      else w.withStatus 0

def unlink : Utility := withOptions [] fun name o w =>
  match o.args with
  | [] => complainUsage 1 name "missing operand" w
  | [path] =>
    match w.linkPlaceOf path with
    | .ok ⟨_, some (.directory _)⟩ => complainAbout name "cannot unlink" path .isDirectory w
    | .ok ⟨place, some _⟩ => (removePlace place w).withStatus 0
    | .ok ⟨_, none⟩ => complainAbout name "cannot unlink" path .notFound w
    | .error e => complainAbout name "cannot unlink" path e w
  | _ :: extra :: _ => complainExtra name extra w

/-- Removes empty directories. -/
def rmdir : Utility := withOptions
  [flag 'p' "parents", flag 'v' "verbose", wordFlag "ignore-fail-on-non-empty"]
  fun name o w =>
    if o.args.isEmpty then complainUsage 1 name "missing operand" w
    else
      let paths := fun (path : String) =>
        if o.has "parents" then (pathsTo path).reverse else [path]
      o.args.foldl (fun w path =>
        ((paths path).foldl (fun (w, goes) path =>
          if !goes then (w, false)
          else
            let w := if o.has "verbose" then
                w.print (name ++ ": removing directory, " ++ shellWord path ++ "\n") else w
            let refuse := fun e => (complainAbout name "failed to remove" path e w, false)
            match w.linkPlaceOf path with
            | .ok ⟨place, some (.directory _)⟩ =>
              if (w.machine.files.names place).isEmpty then (removePlace place w, true)
              else if o.has "ignore-fail-on-non-empty" then (w, false)
              else refuse .notEmpty
            | .ok ⟨_, some _⟩ => refuse .notDirectory
            | .ok ⟨_, none⟩ => refuse .notFound
            | .error e => refuse e) (w, true)).1)
        (w.withStatus 0)

/-! ## Changing -/

/-- The options among the arguments of a utility that may also be given a mode which
    looks like options: the options, and the other arguments. -/
def modeArguments : List String → List String × List String
  | [] => ([], [])
  | a :: rest =>
    match a.toList with
    | ['-', '-'] => ([], rest)
    | '-' :: '-' :: _ =>
      let (options, others) := modeArguments rest
      (a :: options, others)
    | '-' :: c :: cs =>
      let (options, others) := modeArguments rest
      if (c :: cs).all fun c => c == 'R' || c == 'v' || c == 'c' || c == 'f' then (a :: options, others)
      else (options, a :: others)
    | _ =>
      let (options, others) := modeArguments rest
      (options, a :: others)

/-- The paths of what stands at a place and of all below it, a directory in front of what is
    in it; `fuel` bounds how deep directories lie in one another. -/
def treeOf (w : World) : Nat → String → Place → List (String × Place × Entry)
  | 0, _, _ => []
  | fuel + 1, path, place =>
    match w.machine.files.entry? place with
    | none => []
    | some e =>
      (path, place, e) :: if !e.isDirectory then [] else (namesIn w place).flatMap fun n =>
        treeOf w fuel (joinText path (String.ofList n))
          (place ++ [World.pathText (String.ofList n)])

def permissionLetters (mode : Nat) : List Char :=
  let triple := fun (n : Nat) (isSpecial : Bool) (both special : Char) =>
    [if n / 4 % 2 = 1 then 'r' else '-', if n / 2 % 2 = 1 then 'w' else '-',
      if isSpecial then (if n % 2 = 1 then both else special)
      else if n % 2 = 1 then 'x' else '-']
  triple (mode / 64 % 8) (mode / 2048 % 2 == 1) 's' 'S'
    ++ triple (mode / 8 % 8) (mode / 1024 % 2 == 1) 's' 'S'
    ++ triple (mode % 8) (mode / 512 % 2 == 1) 't' 'T'

def shownMode (mode : Nat) : String :=
  let ds := Nat.toDigits 8 mode
  String.ofList (List.replicate (4 - ds.length) '0' ++ ds ++ " (".toList ++ permissionLetters mode
    ++ [')'])

/-- Changes the permissions of what stands at a place, and tells of it as the options ask. -/
def changeMode (o : Options) (changes : List FileMode.Change) (w : World) :
    String × Place × Entry → World
  | (path, place, e) =>
    let old := e.mode
    let new := FileMode.applyAll e.isDirectory w.shell.mask changes old
    let w := match e with
      | .file content _ =>
        w.mapMachine fun m => { m with files := m.files.put place (.file content new) }
      | .directory _ => w.mapMachine fun m => { m with files := m.files.put place (.directory new) }
      | _ => w
    if old != new && (o.has "verbose" || o.has "changes") then
      w.print ("mode of " ++ shellWord path ++ " changed from " ++ shownMode old ++ " to "
        ++ shownMode new ++ "\n")
    else if o.has "verbose" then
      w.print ("mode of " ++ shellWord path ++ " retained as " ++ shownMode new ++ "\n")
    else w

def changeModes (name : String) (o : Options) (changes : List FileMode.Change)
    (paths : List String) (w : World) : World :=
  paths.foldl (fun w path =>
    let refuse := fun (e : SystemError) =>
      if o.has "silent" || o.has "quiet" then w.withStatus 1
      else complainAbout name "cannot access" path e w
    match entryAt true w path with
    | .ok (place, some e) =>
      if o.has "recursive" then
        ((treeOf w depthLimit path place).filter fun (_, p, e) =>
          p == place || !(e matches .link _)).foldl (changeMode o changes) w
      else changeMode o changes w (path, place, e)
    | .ok (_, none) => refuse .notFound
    | .error e => refuse e)
    (w.withStatus 0)

/-- Sets the permissions of files. -/
def chmod : Utility := fun name args w =>
  let (options, args) := modeArguments args
  match readOptions [flag 'R' "recursive", flag 'v' "verbose", flag 'c' "changes", flag 'f' "silent",
      wordFlag "quiet", wordTaking "reference"] options with
  | .error message => complainUsage 1 name message w
  | .ok o =>
    match o.last? "reference", args with
    | _, [] => complainUsage 1 name "missing operand" w
    | some path, paths =>
      match w.stat path with
      | .ok e => changeModes name o [⟨.assign, .written (e.mode), FileMode.allBits, FileMode.allBits⟩] paths w
      | .error e => complainAbout name "failed to get attributes of" path e w
    | none, [mode] => complainUsage 1 name ("missing operand after " ++ quotedWord w mode) w
    | none, mode :: paths =>
      match FileMode.changes? mode.toList with
      | none => complainUsage 1 name ("invalid mode: " ++ quotedWord w mode) w
      | some changes => changeModes name o changes paths w

/-- A name or a number of the only user, who has the only group. -/
def isOwner (s : String) : Bool := s = "root" || (!s.isEmpty && s.toList.all isDigitChar)

/-- Gives files to a user or to a group: `read` finds out what is wrong with the name of
    those who get them. -/
def givingTo (read : World → String → Option String) : Utility := withOptions
  [flag 'R' "recursive", flag 'v' "verbose", flag 'c' "changes", flag 'f' "silent",
    wordFlag "quiet", flag 'h' "no-dereference", wordFlag "dereference", wordTaking "from",
    wordTaking "reference", flag 'H' "", flag 'L' "", flag 'P' ""]
  fun name o w =>
    let (owner?, paths) := if o.has "reference" then (none, o.args)
      else (o.args.head?, o.args.drop 1)
    match owner?, paths with
    | none, [] => complainUsage 1 name "missing operand" w
    | some owner, [] => complainUsage 1 name ("missing operand after " ++ quotedWord w owner) w
    | owner?, paths =>
      match owner?.bind (read w) with
      | some message => complain name message w
      | none =>
        paths.foldl (fun w path =>
          let refuse := fun (e : SystemError) =>
            if o.has "silent" || o.has "quiet" then w.withStatus 1
            else complainAbout name "cannot access" path e w
          match entryAt true w path with
          | .ok (_, some _) => w
          | .ok (_, none) => refuse .notFound
          | .error e => refuse e) (w.withStatus 0)

/-- Gives files to a user, and to a group after a colon. -/
def chown : Utility := givingTo fun w s =>
  let user := String.ofList (s.toList.takeWhile (· != ':'))
  let group := String.ofList ((s.toList.dropWhile (· != ':')).drop 1)
  if !user.isEmpty && !isOwner user then some ("invalid user: " ++ quotedWord w s)
  else if !group.isEmpty && !isOwner group then some ("invalid group: " ++ quotedWord w s)
  else none

def chgrp : Utility := givingTo fun w s =>
  if s.isEmpty || isOwner s then none else some ("invalid group: " ++ quotedWord w s)

/-- A size as it is asked for: what to do with the old one, and a number. -/
def newSize? (s : List Char) : Option (Nat → Nat) :=
  let count := fun (s : List Char) => countWithUnit? s
  match s with
  | '+' :: rest => (count rest).map fun n old => old + n
  | '-' :: rest => (count rest).map fun n old => old - n
  | '<' :: rest => (count rest).map fun n old => min n old
  | '>' :: rest => (count rest).map fun n old => max n old
  | '/' :: rest => (count rest).map fun n old => old / n * n
  | '%' :: rest => (count rest).map fun n old => (old + n - 1) / n * n
  | s => (count s).map fun n _ => n

/-- The size that `truncate` gives to a file by its old one, or what is wrong with the
    options. -/
def sizeChange (o : Options) (w : World) : Except (Bool × String) (Nat → Nat) :=
  let asked := (o.last? "size").map fun s => (s, s.toList.head?, newSize? s.toList)
  let isRelative := fun (first : Option Char) => first.any "+-<>/%".toList.contains
  match asked, o.last? "reference" with
  | none, none =>
    .error (true, "you must specify either " ++ quotedWord w "--size" ++ " or "
      ++ quotedWord w "--reference")
  | some (s, _, none), _ => .error (false, "Invalid number: " ++ quotedWord w s)
  | some (_, _, some change), none => .ok change
  | asked, some path =>
    match w.stat path with
    | .error e => .error (false, "cannot stat " ++ shellWord path ++ ": " ++ e.wording)
    | .ok e =>
      let size := match e with
        | .file content _ => content.length
        | _ => 0
      match asked with
      | none => .ok fun _ => size
      | some (_, first, change?) =>
        if isRelative first then .ok fun _ => (change?.getD id) size
        else .error (true, "you must specify a relative " ++ quotedWord w "--size" ++ " with "
          ++ quotedWord w "--reference")

/-- Sets the sizes of files. -/
def truncate : Utility := withOptions
  [flag 'c' "no-create", taking 's' "size", taking 'r' "reference", flag 'o' "io-blocks"]
  fun name o w =>
    match sizeChange o w with
    | .error (true, message) => complainUsage 1 name message w
    | .error (false, message) => complain name message w
    | .ok change =>
      if o.args.isEmpty then complainUsage 1 name "missing file operand" w
      else
        o.args.foldl (fun w path =>
          let refuse := fun (e : SystemError) =>
            complain name ("cannot open " ++ shellWord path ++ " for writing: " ++ e.wording) w
          let fitted := fun (content : List UInt8) =>
            let n := change content.length
            content.take n ++ List.replicate (n - content.length) 0
          match entryAt true w path with
          | .ok (place, some (.file content mode)) => w.putEntry place (.file (fitted content) mode)
          | .ok (_, some (.directory _)) => refuse .isDirectory
          | .ok (_, some _) => w
          | .ok (place, none) =>
            if o.has "no-create" then w else w.putEntry place (.file (fitted []) w.newMode)
          | .error e => refuse e)
          (w.withStatus 0)

end SourceCheck.Utility
