import SourceCheck.StandIn.Utility.Files

/-! # Copying, moving and linking files

    Each of these utilities takes files and a place for them: a path, or a
    directory that takes them in under their own names.
-/

namespace SourceCheck.Utility

open SourceCheck SourceCheck.Text SourceCheck.Shell

/-! ## Places for files -/

/-- The files that are asked for, and where they go. -/
inductive Errand where
  | toPath (source target : String)
  | into (sources : List String) (directory : String)

/-- The errands of a utility one by one, each a file and a path for it. -/
def Errand.steps : Errand → List (String × String)
  | .toPath source target => [(source, target)]
  | .into sources directory =>
    sources.map fun source =>
      (source, joinText directory (String.ofList (lastName source.toList)))

/-- What a utility is asked to do with its arguments, or why that cannot be read;
    `isInto` tells whether a path is taken as a directory that takes files in. -/
def readErrand (name : String) (isInto : String → Bool) (o : Options) (w : World) :
    Except World Errand :=
  match o.last? "target-directory", o.args with
  | some directory, args =>
    if args.isEmpty then .error (complainUsage 1 name "missing file operand" w)
    else if isInto directory then .ok (.into args directory)
    else
      let why := match w.stat directory with
        | .ok _ => SystemError.notDirectory
        | .error e => e
      .error (complainAbout name "target directory" directory why w)
  | none, [] => .error (complainUsage 1 name "missing file operand" w)
  | none, [source] =>
    .error (complainUsage 1 name ("missing destination file operand after " ++ shellWord source) w)
  | none, args =>
    let last := args.getLast?.getD ""
    -- the last operand may be taken for a name, even if it is a directory
    if o.has "no-target-directory" then
      match args with
      | [source, target] => .ok (.toPath source target)
      | _ => .error (complainUsage 1 name ("extra operand " ++ shellWord ((args.drop 2).head?.getD "")) w)
    else if isInto last then .ok (.into args.dropLast last)
    else match args with
      | [source, target] => .ok (.toPath source target)
      | _ =>
        let why := match w.stat last with
          | .ok _ => SystemError.notDirectory
          | .error e => e
        .error (complainAbout name "target" last why w)

/-! ## Files that are there already -/

/-- What happens where another file is already. -/
inductive Meeting where
  | replace
  | stay
  /-- It gives way if that is affirmed. -/
  | ask
  /-- It gives way to what was changed after it. -/
  | ifOlder
  deriving DecidableEq

/-- A file may give way to another one at a place. -/
def givesWay (name : String) (meeting : Meeting) (target : String) (old new : Place) (w : World) :
    Bool × World :=
  match meeting with
  | .replace => (true, w)
  | .stay => (false, w)
  | .ask => askWhether (name ++ ": overwrite " ++ shellWord target ++ "? ") w
  | .ifOlder => (w.changedAt new < w.changedAt old, w)

/-- How files that give way are kept: the ending of their new names, and whether those are
    numbered; nothing tells to number them where that was done before. -/
structure Backup where
  suffix : String
  numbered : Option Bool

/-- How files that give way are to be kept. -/
def backupOf (o : Options) : Option Backup :=
  let suffix := (o.last? "suffix").getD "~"
  match o.lastOf? ["b", "backup"], (o.given.filter (·.1 == "backup")).getLast?.bind (·.2) with
  | some "backup", some "none" | some "backup", some "off" => none
  | some "backup", some "numbered" | some "backup", some "t" => some ⟨suffix, some true⟩
  | some "backup", some "simple" | some "backup", some "never" => some ⟨suffix, some false⟩
  | some _, _ => some ⟨suffix, none⟩
  | none, _ => if o.has "suffix" then some ⟨suffix, none⟩ else none

/-- The options of a utility that keeps files which give way. -/
def backupOptions : List OptionSpec :=
  [flag 'b' "", (none, "backup", .perhaps), taking 'S' "suffix"]

/-- The path under which a file that gives way is kept. -/
def Backup.path (b : Backup) (w : World) (path : String) : String :=
  let numberedPath := fun (n : Nat) => path ++ ".~" ++ Number.natText n ++ "~"
  let isThere := fun (p : String) => match w.linkPlaceOf p with
    | .ok ⟨_, some _⟩ => true
    | _ => false
  let last := ((List.range 1000).filter fun n => 0 < n && isThere (numberedPath n)).getLast?
  match b.numbered, last with
  | some false, _ | none, none => path ++ b.suffix
  | _, last => numberedPath (last.getD 0 + 1)

/-- All that stands at a place and below it stands at another one. -/
def movePlace (old new : Place) (w : World) : World :=
  if old = new then w
  else
    let w := removePlace new w
    let moved := fun (p : Place) => if old.isPrefixOf p then new ++ p.drop old.length else p
    w.mapMachine fun m =>
      { m with
        files := { m.files with entries := m.files.entries.map fun (p, e) => (moved p, e) }
        changes := (m.changes.filter fun (p, _) => !new.isPrefixOf p).map fun (p, t) => (moved p, t) }

/-- Keeps what stands at a path under another name, which is told with what happens. -/
def keepOld (backup : Option Backup) (target : String) (place : Place) (w : World) :
    String × World :=
  match backup with
  | none => ("", w)
  | some b =>
    let path := b.path w target
    match w.linkPlaceOf path with
    | .ok ⟨there, _⟩ => (" (backup: " ++ shellWord path ++ ")", movePlace place there w)
    | .error _ => ("", w)

/-! ## Copying -/

/-- What a copy is. -/
inductive CopyKind where
  | content
  | name
  /-- A symbolic link to the file. -/
  | reference
  deriving DecidableEq

/-- How files are copied. -/
structure CopyStyle where
  deep : Bool
  follows : Bool
  followsBelow : Bool
  keepsMode : Bool
  keepsTime : Bool
  /-- What happens where a file is already. -/
  meeting : Meeting
  /-- How files that give way are kept. -/
  backup : Option Backup
  kind : CopyKind
  /-- Files that give way are removed first. -/
  removes : Bool
  /-- Each copy is told of. -/
  isShown : Bool

def copyEntry (style : CopyStyle) (place : Place) (old : Option Entry) (e : Entry) (w : World) :
    World :=
  match e, old with
  | .file content new, some (.file _ mode) =>
    w.putEntry place (.file content (if style.keepsMode then new else mode))
  | _, some (.device _) => w
  | .file content mode, _ =>
    let mode := if style.keepsMode then mode else mode &&& (0o777 ^^^ (w.shell.mask % 0o1000))
    w.putEntry place (.file content mode)
  | .device _, _ => w.putEntry place (.file [] w.newMode)
  | e, _ => w.putEntry place e

/-- Copies one entry that is no directory to a path, where a file may be already. -/
def copyLeaf (name : String) (style : CopyStyle) (source target : String) (old new : Place)
    (there : Option Entry) (e : Entry) (w : World) : World :=
  let (goes, w) := match there with
    | some _ => givesWay name style.meeting target old new w
    | none => (true, w)
  let isRelative := !startsWith source "/"
  if !goes then w
  -- the text of a relative link is read from where the link stands
  else if style.kind == .reference && isRelative && target.toList.contains '/' then
    complain name (shellQuotedIfNeeded target
      ++ ": can make relative symbolic links only in current directory") w
  else
    let (kept, w) := if there.isSome then keepOld style.backup target new w else ("", w)
    -- what was kept under another name has made its place free
    let isGone := there.isSome && (style.removes || style.backup.isSome)
    let w := if isGone then removePlace new w else w
    let w := if there.isSome && style.removes && style.isShown then
        w.print ("removed " ++ shellWord target ++ "\n") else w
    let there := if isGone then none else there
    let tell := fun (w : World) =>
      if style.isShown then
        w.print (shellWord source ++ " -> " ++ shellWord target ++ kept ++ "\n")
      else w
    match style.kind, there with
    | .content, _ =>
      let w := copyEntry style new there e w
      tell (if style.keepsTime then w.setChanged new (w.changedAt old) else w)
    | .name, none => tell (w.putEntry new e)
    | .name, some _ =>
      complain name ("cannot create hard link " ++ shellWord target ++ " to " ++ shellWord source
        ++ ": " ++ SystemError.alreadyExists.wording) w
    | .reference, none => tell (w.putEntry new (.link (World.pathText source)))
    | .reference, some _ =>
      complain name ("cannot create symbolic link " ++ shellWord target ++ " to "
        ++ shellWord source ++ ": " ++ SystemError.alreadyExists.wording) w

/-- Copies one file to a path, and a directory with all in it.  `top` is what the copying began
    with, with the place of its copy, which is not copied itself; `fuel` bounds how deep
    directories lie in one another. -/
def copyTree (name : String) (style : CopyStyle) :
    Nat → Option (String × String × Place) → World → String × String → World
  | 0, _, w, _ => w
  | fuel + 1, top, w, (source, target) =>
    let refuse := fun message => complain name message w
    let follows := if top.isSome then style.followsBelow else style.follows
    match entryAt follows w source with
    | .error e => refuse ("cannot stat " ++ shellWord source ++ ": " ++ e.wording)
    | .ok (_, none) => refuse ("cannot stat " ++ shellWord source ++ ": " ++ SystemError.notFound.wording)
    | .ok (old, some e) =>
      let isFolder := e.isDirectory
      let what := if isFolder then "cannot create directory " else "cannot create regular file "
      let isFree := match w.linkPlaceOf (FileSystem.withoutSlashes target) with
        | .ok ⟨_, none⟩ => true
        | _ => false
      if isFolder && !style.deep then
        refuse ("-r not specified; omitting directory " ++ shellWord source)
      else match entryAt (style.kind == .content || isFolder) w target with
        | .error e =>
          let e := if !isFolder && endsInSlash target && isFree then .notDirectory else e
          refuse (what ++ shellWord target ++ ": " ++ e.wording)
        | .ok (new, there) =>
          let (topSource, topTarget, topPlace) := top.getD (source, target, new)
          -- the directory that is being filled is met again below itself
          if isFolder && top.isSome && old == topPlace then
            refuse ("cannot copy a directory, " ++ shellWord topSource ++ ", into itself, "
              ++ shellWord topTarget)
          else if new == old then
            refuse (shellWord source ++ " and " ++ shellWord target ++ " are the same file")
          else match isFolder, there.map (·.isDirectory) with
            | true, some false =>
              refuse ("cannot overwrite non-directory " ++ shellWord target ++ " with directory "
                ++ shellWord source)
            | true, there =>
              let w := if there.isSome then w
                else
                  let w := w.putEntry new (.directory w.newFolderMode)
                  if style.isShown then
                    w.print (shellWord source ++ " -> " ++ shellWord target ++ "\n")
                  else w
              (namesIn w old).foldl (fun w n =>
                copyTree name style fuel (some (topSource, topTarget, topPlace)) w
                  (joinText source (String.ofList n), joinText target (String.ofList n))) w
            | false, some true =>
              refuse ("cannot overwrite directory " ++ shellWord target ++ " with non-directory")
            | false, none =>
              if endsInSlash target then
                refuse (what ++ shellWord target ++ ": " ++ SystemError.notDirectory.wording)
              else copyLeaf name style source target old new none e w
            | false, some false => copyLeaf name style source target old new there e w

/-- Makes the directories that a file is in below another directory. -/
def makeParents (name : String) (isShown : Bool) (directory : String) (w : World)
    (source : String) : World :=
  let parents := (pathsTo (String.ofList (parentName source.toList))).filter fun p =>
    p != "." && p != "/"
  parents.foldl (fun w parent =>
    let path := joinText directory (String.ofList (parent.toList.dropWhile (· == '/')))
    if isFolder w path then w
    else match makeFolder name none w.newFolderMode path w with
      | .ok w => if isShown then w.print (parent ++ " -> " ++ path ++ "\n") else w
      | .error e =>
        complain name ("cannot make directory " ++ shellWord path ++ ": " ++ e.wording) w) w

def cp : Utility := withOptions
  (backupOptions ++ [flag 'a' "archive", flag 'f' "force", flag 'i' "interactive",
    flag 'L' "dereference", flag 'P' "no-dereference", flag 'n' "no-clobber", flag 'p' "",
    (none, "preserve", .perhaps), wordTaking "no-preserve", flag 'r' "", flag 'R' "recursive",
    flag 'd' "", taking 't' "target-directory", flag 'H' "", flag 'T' "no-target-directory",
    flag 'v' "verbose", flag 'u' "update", flag 'x' "one-file-system", flag 'l' "link",
    flag 's' "symbolic-link", wordFlag "parents", wordFlag "remove-destination",
    wordFlag "attributes-only", (none, "reflink", .perhaps), wordTaking "sparse",
    wordFlag "strip-trailing-slashes", wordFlag "copy-contents"])
  fun name o w =>
    let deep := o.has "recursive" || o.has "r" || o.has "archive"
    -- the last of these options decides whether links are followed
    let choice := o.lastOf? ["dereference", "no-dereference", "archive", "d", "H"]
    let kept := o.values "preserve"
    let keeps := fun (what : String) =>
      o.has "archive" || o.has "p" || (o.has "preserve" && kept.isEmpty)
        || kept.any fun v => (splitAt ',' v).any fun a => a == what || a == "all"
    let style : CopyStyle :=
      { deep := deep
        follows := match choice with
          | some key => key == "dereference" || key == "H"
          | none => !deep
        followsBelow := choice == some "dereference"
        keepsMode := keeps "mode"
        keepsTime := keeps "timestamps"
        meeting := match o.lastOf? ["interactive", "no-clobber"] with
          | some "interactive" => .ask
          | some _ => .stay
          | none => if o.has "update" then .ifOlder else .replace
        backup := backupOf o
        kind := if o.has "link" then .name else if o.has "symbolic-link" then .reference else .content
        removes := o.has "remove-destination"
          || (o.has "force" && (o.has "link" || o.has "symbolic-link"))
        isShown := o.has "verbose" }
    if style.meeting == .stay && style.backup.isSome then
      complainUsage 1 name "options --backup and --no-clobber are mutually exclusive" w
    else match readErrand name (isFolder w) o w with
    | .error w => w
    | .ok errand =>
      let copy := copyTree name style depthLimit none
      match o.has "parents", errand with
      | false, errand => errand.steps.foldl copy (w.withStatus 0)
      | true, .toPath _ _ =>
        complainUsage 1 name "with --parents, the destination must be a directory" w
      | true, .into sources directory =>
        sources.foldl (fun w source =>
          let w := makeParents name style.isShown directory w source
          copy w (source,
            joinText directory (String.ofList (source.toList.dropWhile (· == '/')))))
          (w.withStatus 0)

/-- Copies files and sets their permissions, or makes directories. -/
def install : Utility := withOptions
  (backupOptions ++ [flag 'c' "", flag 'C' "compare", flag 'd' "directory", flag 'D' "",
    taking 'm' "mode", taking 'o' "owner", taking 'g' "group", taking 't' "target-directory",
    flag 'T' "no-target-directory", flag 'v' "verbose", flag 'p' "preserve-timestamps",
    flag 's' "strip"])
  fun name o w =>
    let mode := (o.last? "mode").map fun m => (m, FileMode.changes? m.toList)
    -- a mode that is told starts from nothing
    let bits := FileMode.applyAll false 0 ((mode.bind (·.2)).getD []) (if mode.isSome then 0 else 0o755)
    let telling := if o.has "verbose" then some "creating directory" else none
    let make := fun (w : World) (path : String) =>
      match makeFolders name telling (if mode.isSome then bits else 0o755) (pathsTo path) w with
      | .ok w => w
      | .error (place, e) =>
        complain name ("cannot create directory " ++ quotedWord w place ++ ": " ++ e.wording) w
    let style : CopyStyle :=
      ⟨false, true, true, false, o.has "preserve-timestamps", .replace, backupOf o, .content,
        (backupOf o).isNone, o.has "verbose"⟩
    match mode with
    | some (m, none) => complain name ("invalid mode " ++ quotedWord w m) w
    | _ =>
    if o.has "directory" then
      if o.args.isEmpty then complainUsage 1 name "missing file operand" w
      else o.args.foldl make (w.withStatus 0)
    else
      let w := match o.has "D", o.last? "target-directory" with
        | true, some directory => make w directory
        | _, _ => w
      match readErrand name (isFolder w) o w with
      | .error w => w
      | .ok errand =>
        errand.steps.foldl (fun w (source, target) =>
          let w := if o.has "D" then
              make w (String.ofList (parentName target.toList)) else w
          match w.stat source with
          | .error e => complain name ("cannot stat " ++ shellWord source ++ ": " ++ e.wording) w
          | .ok (.directory _) => complain name ("omitting directory " ++ shellWord source) w
          | .ok _ =>
            let w := copyTree name style depthLimit none w (source, target)
            match entryAt true w target with
            | .ok (place, some (.file content _)) => w.putEntry place (.file content bits)
            | _ => w)
          (w.withStatus 0)

/-! ## Moving -/

/-- Moves one file to a path. -/
def moveOne (name : String) (o : Options) (meeting : Meeting) (w : World)
    (step : String × String) : World :=
  let (source, target) := step
  let refuse := fun message => complain name message w
  let fail := fun (e : SystemError) =>
    refuse ("cannot move " ++ shellWord source ++ " to " ++ shellWord target ++ ": " ++ e.wording)
  let tell := fun (kept : String) (w : World) =>
    if o.has "verbose" then
      w.print ("renamed " ++ shellWord source ++ " -> " ++ shellWord target ++ kept ++ "\n")
    else w
  match entryAt false w source with
  | .error e => refuse ("cannot stat " ++ shellWord source ++ ": " ++ e.wording)
  | .ok (_, none) => refuse ("cannot stat " ++ shellWord source ++ ": " ++ SystemError.notFound.wording)
  | .ok (old, some e) =>
    match w.linkPlaceOf (FileSystem.withoutSlashes target) with
    | .error e => fail e
    | .ok ⟨new, there⟩ =>
      let isBelow :=
        refuse ("cannot move " ++ shellWord source ++ " to a subdirectory of itself, "
          ++ shellWord target)
      let move := fun (w : World) =>
        let (goes, w) := givesWay name meeting target old new w
        if goes then
          let (kept, w) := keepOld (backupOf o) target new w
          tell kept (movePlace old new w)
        else w
      match e.isDirectory, there with
      | _, none =>
        if !e.isDirectory && endsInSlash target then fail .notDirectory
        -- a directory cannot be moved below itself
        else if e.isDirectory && old.isPrefixOf new then isBelow
        else tell "" (movePlace old new w)
      | true, some (.directory _) =>
        if new == old then
          refuse (shellWord source ++ " and " ++ shellWord target ++ " are the same file")
        else if old.isPrefixOf new then isBelow
        -- a directory that is in the way must be empty
        else if (w.machine.files.names new).isEmpty || (backupOf o).isSome then move w
        else if meeting == .stay then w
        else fail .notEmpty
      | true, some _ =>
        refuse ("cannot overwrite non-directory " ++ shellWord target ++ " with directory "
          ++ shellWord source)
      | false, some (.directory _) =>
        refuse ("cannot overwrite directory " ++ shellWord target ++ " with non-directory")
      | false, some _ =>
        if new == old then
          refuse (shellWord source ++ " and " ++ shellWord target ++ " are the same file")
        else move w

def mv : Utility := withOptions
  (backupOptions ++ [flag 'f' "force", flag 'i' "interactive", flag 'n' "no-clobber",
    taking 't' "target-directory", flag 'T' "no-target-directory", flag 'v' "verbose",
    flag 'u' "update", wordFlag "strip-trailing-slashes"])
  fun name o w =>
    let meeting : Meeting := match o.lastOf? ["force", "interactive", "no-clobber"] with
      | some "interactive" => .ask
      | some "no-clobber" => .stay
      | _ => if o.has "update" then .ifOlder else .replace
    if meeting == .stay && (backupOf o).isSome then
      complainUsage 1 name "options --backup and --no-clobber are mutually exclusive" w
    else match readErrand name (isFolder w) o w with
      | .error w => w
      | .ok errand => errand.steps.foldl (moveOne name o meeting) (w.withStatus 0)

/-! ## Linking -/

def linkOne (name : String) (o : Options) (w : World) (step : String × String) : World :=
  let (source, target) := step
  let isSymbolic := o.has "symbolic"
  let refuse := fun message => complain name message w
  let kind := if isSymbolic then "symbolic link " else "hard link "
  let fail := fun (e : SystemError) =>
    refuse ("failed to create " ++ kind ++ shellWord target
      ++ (if isSymbolic || e == .alreadyExists then "" else " => " ++ shellWord source)
      ++ ": " ++ e.wording)
  let entry : Except World Entry :=
    if isSymbolic then
      -- a relative link is written as seen from its own directory
      let written := if o.has "relative" then
          match canonical w .nothing source, canonical w .nothing (String.ofList (parentName target.toList)) with
          | .ok there, .ok here => relativeTo here there
          | _, _ => source
        else source
      if source.isEmpty then
        .error (refuse ("failed to create symbolic link " ++ shellWord target ++ " -> "
          ++ shellWord source ++ ": " ++ SystemError.notFound.wording))
      else .ok (.link (World.pathText written))
    else match entryAt false w source with
      | .ok (_, some (.directory _)) =>
        .error (refuse (shellQuotedIfNeeded source ++ ": hard link not allowed for directory"))
      | .ok (_, some e) => .ok e
      | .ok (_, none) =>
        .error (refuse ("failed to access " ++ shellWord source ++ ": " ++ SystemError.notFound.wording))
      | .error e => .error (refuse ("failed to access " ++ shellWord source ++ ": " ++ e.wording))
  match entry, w.linkPlaceOf target with
  | .error w, _ => w
  | _, .error e => fail e
  | .ok e, .ok ⟨place, there⟩ =>
    let made := fun (w : World) =>
      let w := w.putEntry place e
      if o.has "verbose" then
        w.print (shellWord target ++ (if isSymbolic then " -> " else " => ") ++ shellWord source ++ "\n")
      else w
    -- something at the target stays unless it may be replaced
    match there with
    | none => if endsInSlash target then fail .notFound else made w
    | some (.directory _) =>
      if o.has "force" || o.has "interactive" || (backupOf o).isSome then
        refuse (shellQuotedIfNeeded target ++ ": cannot overwrite directory")
      else fail .alreadyExists
    | some _ =>
      let asks := o.lastOf? ["force", "interactive"] == some "interactive"
      let (goes, w) := if asks then askWhether (name ++ ": replace " ++ shellWord target ++ "? ") w
        else (true, w)
      if !goes then w
      else if o.has "force" || o.has "interactive" || (backupOf o).isSome then
        made (removePlace place (keepOld (backupOf o) target place w).2)
      else fail .alreadyExists

def ln : Utility := withOptions
  (backupOptions ++ [flag 's' "symbolic", flag 'f' "force", flag 'n' "no-dereference", flag 'v' "verbose",
    flag 'r' "relative", flag 'T' "no-target-directory", taking 't' "target-directory",
    flag 'i' "interactive", flag 'L' "logical", flag 'P' "physical", flag 'd' "directory", flag 'F' ""])
  fun name o w =>
    let isInto := fun path =>
      let isLink := match w.linkPlaceOf path with
        | .ok ⟨_, some (.link _)⟩ => true
        | _ => false
      isFolder w path && !(o.has "no-dereference" && isLink)
    let errand := match o.args, o.last? "target-directory" with
      | [source], none => if o.has "no-target-directory" then readErrand name isInto o w
        else .ok (.into [source] ".")
      | _, _ => readErrand name isInto o w
    match errand with
    | .error w => w
    | .ok errand => errand.steps.foldl (linkOne name o) (w.withStatus 0)

/-- Makes one more name for a file. -/
def link : Utility := withOptions [] fun name o w =>
  match o.args with
  | [] => complainUsage 1 name "missing operand" w
  | [a] => complainUsage 1 name ("missing operand after " ++ quotedWord w a) w
  | _ :: _ :: extra :: _ => complainExtra name extra w
  | [source, target] =>
    let refuse := fun (e : SystemError) =>
      complain name ("cannot create link " ++ shellWord target ++ " to " ++ shellWord source ++ ": "
        ++ e.wording) w
    match entryAt false w source, w.linkPlaceOf target with
    | .error e, _ => refuse e
    | .ok (_, none), _ => refuse .notFound
    | .ok (_, some (.directory _)), _ => refuse .notPermitted
    | _, .error e => refuse e
    | _, .ok ⟨_, some _⟩ => refuse .alreadyExists
    | .ok (_, some e), .ok ⟨place, none⟩ => (w.putEntry place e).withStatus 0

end SourceCheck.Utility
