import SourceCheck.StandIn.Utility.FindQuery
import SourceCheck.StandIn.Utility.Launching
import SourceCheck.StandIn.Utility.Listing

/-! # Searching for files

    A search goes from each starting point down through directories.  Every file it
    meets is held against the query; a directory comes before what it holds, or after it
    if that is asked for.
-/

namespace SourceCheck.Utility

open SourceCheck SourceCheck.Shell SourceCheck.Text

namespace Find

/-- A file that the search meets. -/
structure Item where
  start : List Char
  path : List Char
  place : Place
  /-- What stands there, or where it leads to if links are followed. -/
  entry : Entry
  /-- How many directories lie between it and the starting point. -/
  depth : Nat

/-- A search under way. -/
structure Walk where
  world : World
  /-- The directory just met is not entered. -/
  pruned : Bool
  stopped : Bool
  /-- Something went wrong. -/
  failed : Bool
  /-- Commands for many files, by their numbers, and the files met for them, the last
      one first. -/
  collected : List (Nat × List String × List String)

namespace Walk

def goesOn (k : Walk) : Bool := !k.stopped && k.world.isRunning

/-- Something is said to be wrong. -/
def refuse (k : Walk) (message : String) : Walk :=
  { k with world := k.world.write 2 ("find: " ++ message ++ "\n"), failed := true }

def refuseFile (k : Walk) (path : String) (e : SystemError) : Walk :=
  k.refuse (quotedWord k.world path ++ ": " ++ e.wording)

end Walk

/-! ## Conditions -/

def typeLetter : Entry → Char
  | .file _ _ | .program _ => 'f'
  | .directory _ => 'd'
  | .link _ => 'l'
  | .device _ => 'c'

/-- What the place of an item leads to, links followed. -/
def targetOf (w : World) (item : Item) : Option Entry :=
  match w.machine.files.find w.shell.cwd true (World.pathText (String.ofList item.path)) with
  | .ok found => found.entry
  | .error _ => none

/-- How long ago a file changed, in microseconds; none was changed just now. -/
def ageOf (w : World) (item : Item) : Nat := w.now + 1 - w.changedAt item.place

def admitsMinutes (age : Nat) : Bound → Bool
  | .below n => age < n * 60000000
  | .exactly n => age / 60000000 + 1 == n
  | .above n => n * 60000000 < age

def Condition.holds (w : World) (item : Item) : Condition → Bool
  | .always b => b
  | .name s => s.fits (lastName item.path)
  | .path s => s.fits item.path
  | .linkTarget s =>
    match item.entry with
    | .link target => s.fits (ofText target).toList
    | _ => false
  | .matching r anyCase =>
    let wide := usesUtf8 w
    let subject : Regex.Subject := ⟨(Regex.toLetters wide item.path).toArray, anyCase, false, wide⟩
    -- the pattern has to match the whole path
    (Regex.matchFrom? subject r 0 subject.size).any (·.stop == subject.size)
  | .type letters => letters.contains (typeLetter item.entry)
  | .targetType letters =>
    match item.entry with
    | .link _ => letters.contains (((targetOf w item).map typeLetter).getD 'l')
    | e => letters.contains (typeLetter e)
  | .size b unit => b.admits ((entrySize item.entry + unit - 1) / unit)
  | .empty =>
    match item.entry with
    | .file [] _ => true
    | .directory _ => (w.machine.files.names item.place).isEmpty
    | _ => false
  | .newer time => time < w.changedAt item.place
  | .days b => b.admits (ageOf w item / 86400000000)
  | .minutes b => admitsMinutes (ageOf w item) b
  | .mode bits agreement =>
    let here := item.entry.mode
    match agreement with
    | .same => here == bits
    | .all => here &&& bits == bits
    | .some => bits == 0 || here &&& bits != 0
  | .names b => b.admits (nameCount w item.place item.entry)
  | .same place => item.place == place
  | .usable running => !running || w.machine.files.mayRun item.entry

/-! ## Templates -/

/-- An item's path as seen from its starting point. -/
def inner (item : Item) : List Char := (item.path.drop item.start.length).dropWhile (· == '/')

/-- What is shown for a letter in a template. -/
def field (w : World) (item : Item) (c : Char) : List Char :=
  if c = 'p' then item.path
  else if c = 'f' then
    let slashes := item.path.reverse.takeWhile (· == '/')
    lastName item.path ++ (if lastName item.path == ['/'] then [] else slashes)
  else if c = 'h' then
    let up := item.path.reverse.dropWhile (· != '/')
    if up.isEmpty then ['.'] else (up.drop 1).reverse
  else if c = 'P' then inner item
  else if c = 'H' then item.start
  else if c = 'd' then digits item.depth
  else if c = 's' then digits (entrySize item.entry)
  else if c = 'k' then digits (entryBlocks item.entry / 2)
  else if c = 'b' then digits (entryBlocks item.entry)
  else if c = 'm' then Nat.toDigits 8 (item.entry.mode)
  else if c = 'M' then modeLetters item.entry
  else if c = 'n' then digits (nameCount w item.place item.entry)
  -- all belongs to one user
  else if c = 'u' || c = 'g' then "root".toList
  else if c = 'U' || c = 'G' then ['0']
  else if c = 'y' then [typeLetter item.entry]
  else if c = 'Y' then [((targetOf w item).map typeLetter).getD 'N']
  else if c = 'l' then
    match item.entry with
    | .link target => (ofText target).toList
    | _ => []
  else if c = 'i' then digits (1000 + w.machine.files.entries.findIdx (·.1 == item.place))
  else if c = '%' then ['%']
  else ['%', c]

/-- The character that a letter writes after a backslash. -/
def escaped? (c : Char) : Option Char :=
  let codes : List (Char × Nat) :=
    [('a', 7), ('b', 8), ('f', 12), ('n', 10), ('r', 13), ('t', 9), ('v', 11), ('\\', 92)]
  (codes.lookup c).map Char.ofNat

def isOctalDigit (c : Char) : Bool := '0' ≤ c && c ≤ '7'

/-- What a template shows of an item; `fuel` bounds its characters. -/
def shown (w : World) (item : Item) : Nat → List Char → List Char
  | 0, _ => []
  | fuel + 1, template =>
    match template with
    | [] => []
    | '\\' :: c :: rest =>
      if isOctalDigit c then
        let ds := ((c :: rest).take 3).takeWhile isOctalDigit
        let n := octalValue ds
        Char.ofNat (n % 256) :: shown w item fuel ((c :: rest).drop ds.length)
      else if c = 'c' then []
      else match escaped? c with
        | some e => e :: shown w item fuel rest
        | none => '\\' :: c :: shown w item fuel rest
    | '%' :: rest =>
      let isLeft := (rest.takeWhile ("-+ #0".toList.contains ·)).contains '-'
      let rest := rest.dropWhile ("-+ #0".toList.contains ·)
      let width := rest.takeWhile isDigitChar
      let rest := rest.drop width.length
      match rest with
      | c :: rest =>
        let text := field w item c
        let n := digitsValue width
        (if isLeft then padRight n text else padLeft n text) ++ shown w item fuel rest
      | [] => []
    | c :: rest => c :: shown w item fuel rest

/-! ## Actions -/

/-- Two braces, which stand for a path in a command. -/
def pathMark : List Char := ['\x7b', '\x7d']

def withPath (path : List Char) (command : List String) : List String :=
  command.map fun a => String.ofList (replacing pathMark path (a.length + 1) a.toList)

/-- Runs a program and waits for it: whether it ended well. -/
def launch (l : Launcher) (k : Walk) (command : List String) : Bool × Walk :=
  match l.call command k.world with
  | .error e =>
    let w := k.world.write 2 ("find: " ++ quotedWord k.world (command.head?.getD "") ++ ": "
      ++ e.wording ++ "\n")
    (false, { k with world := w })
  | .ok (after, _) => (after.shell.status == 0, { k with world := after })

/-- Runs a program in the directory of an item, in which the item is known by its
    name. -/
def launchInside (l : Launcher) (k : Walk) (item : Item) (command : List String) : Bool × Walk :=
  let old := k.world.shell.cwd
  let folder := if item.depth = 0 && item.path == ['.'] then item.place else item.place.dropLast
  let moved := { k with world := k.world.mapShell ({ · with cwd := folder }) }
  let name := if item.path == ['.'] then ['.'] else '.' :: '/' :: lastName item.path
  let (holds, k) := launch l moved (withPath name command)
  (holds, { k with world := k.world.mapShell ({ · with cwd := old }) })

def removeItem (k : Walk) (item : Item) : Bool × Walk :=
  if item.path == ['.'] then (true, k)
  else if item.entry.isDirectory && !(k.world.machine.files.names item.place).isEmpty then
    (false, k.refuse ("cannot delete " ++ quotedWord k.world (String.ofList item.path) ++ ": "
      ++ SystemError.notEmpty.wording))
  else
    (true, { k with world := removePlace item.place k.world })

/-- An item is kept for a command for many. -/
def keepFor (k : Walk) (number : Nat) (command : List String) (path : String) : Walk :=
  let rec go : List (Nat × List String × List String) → List (Nat × List String × List String)
    | [] => [(number, command, [path])]
    | (n, c, paths) :: rest =>
      if n = number then (n, c, path :: paths) :: rest else (n, c, paths) :: go rest
  { k with collected := go k.collected }

/-- Does something with an item: whether it went well. -/
def Action.perform (l : Launcher) (k : Walk) (item : Item) : Action → Bool × Walk
  | .print ending => (true, { k with world := put (item.path ++ [ending]) k.world })
  | .format template =>
    let text := shown k.world item (template.length + 1) template
    (true, { k with world := put text k.world })
  | .run inside command =>
    if inside then launchInside l k item command else launch l k (withPath item.path command)
  | .collect number command => (true, keepFor k number command (String.ofList item.path))
  | .delete => removeItem k item
  | .prune => (true, { k with pruned := true })
  | .quit => (true, { k with stopped := true })

def Query.holds (l : Launcher) (k : Walk) (item : Item) : Query → Bool × Walk
  | .condition c => (c.holds k.world item, k)
  | .action a => if k.goesOn then a.perform l k item else (false, k)
  | .negated q =>
    let (b, k) := q.holds l k item
    (!b, k)
  | .both p q =>
    let (b, k) := p.holds l k item
    if b then q.holds l k item else (false, k)
  | .either p q =>
    let (b, k) := p.holds l k item
    if b then (true, k) else q.holds l k item
  | .sequence p q =>
    let (_, k) := p.holds l k item
    q.holds l k item

/-! ## The walk -/

def entryFor (w : World) (follows : Bool) (place : Place) : Option Entry :=
  match w.machine.files.entry? place with
  | some (.link target) =>
    if follows then
      match w.machine.files.find [] true (placePath place).text with
      | .ok ⟨_, some e⟩ => some e
      | _ => some (.link target)
    else some (.link target)
  | e => e

/-- The place whose names a directory shows, links followed. -/
def folderPlace (w : World) (place : Place) : Place :=
  match w.machine.files.find [] true (placePath place).text with
  | .ok found => found.place
  | .error _ => place

/-- Visits an item and all below it; `above` are the directories it lies in, and `fuel`
    bounds the depth. -/
def visit (l : Launcher) (course : Course) (q : Query) :
    Nat → List (Place × List Char) → Item → Walk → Walk
  | 0, _, _, k => k
  | fuel + 1, above, item, k =>
    if !k.goesOn then k
    else
      -- entries that are not deep enough are walked through, not looked at
      let counts := course.shallowest ≤ item.depth
      let k := { k with pruned := false }
      let k := if counts && !course.lateFolders then (q.holds l k item).2 else k
      let isOpen := item.entry.isDirectory && (course.lateFolders || !k.pruned)
        && course.deepest.all (item.depth < ·)
      let folder := folderPlace k.world item.place
      let k :=
        if !isOpen then k
        -- a link may lead to a directory that is being walked already
        else match above.lookup folder with
          | some upper =>
            k.refuse ("File system loop detected; " ++ quotedWord k.world (String.ofList item.path)
              ++ " is part of the same file system loop as "
              ++ quotedWord k.world (String.ofList upper) ++ ".")
          | none =>
            (k.world.machine.files.names folder).foldl (fun k name =>
              match entryFor k.world course.follows (folder ++ [name]) with
              | none => k
              | some e =>
                let slash := if item.path.getLast? == some '/' then [] else ['/']
                visit l course q fuel ((folder, item.path) :: above)
                  ⟨item.start, item.path ++ slash ++ (ofText name).toList, folder ++ [name], e,
                    item.depth + 1⟩ k) k
      -- what is in a directory may be looked at before the directory itself
      if counts && course.lateFolders && k.goesOn then (q.holds l k item).2 else k

/-- How deep directories can lie. -/
def depthLimit : Nat := 1000

def searchFrom (l : Launcher) (course : Course) (q : Query) (k : Walk) (start : String) : Walk :=
  if !k.goesOn then k
  else
    let found :=
      if course.follows || course.followsFirst then
        match k.world.placeOf start with
        | .ok ⟨place, some e⟩ => .ok ⟨place, some e⟩
        | _ => k.world.linkPlaceOf start
      else if endsInSlash start then k.world.placeOf start
      else k.world.linkPlaceOf start
    match found with
    | .error e => k.refuseFile start e
    | .ok ⟨_, none⟩ => k.refuseFile start .notFound
    | .ok ⟨place, some e⟩ =>
      if endsInSlash start && !e.isDirectory then k.refuseFile start .notDirectory
      else visit l course q depthLimit [] ⟨start.toList, start.toList, place, e, 0⟩ k

/-- The options in front: how links are followed, and the words after them. -/
def frontOptions (course : Course) : List String → Course × List String
  | "-D" :: _ :: rest => frontOptions course rest
  | word :: rest =>
    if word = "-P" then frontOptions { course with follows := false, followsFirst := false } rest
    else if word = "-L" then frontOptions { course with follows := true } rest
    else if word = "-H" then frontOptions { course with followsFirst := true } rest
    else if startsWith word "-O" then frontOptions course rest
    else if word = "--" then (course, rest)
    else (course, word :: rest)
  | [] => (course, [])

/-- Runs the commands for many files. -/
def runCollected (l : Launcher) (k : Walk) : Walk :=
  k.collected.foldl (fun k (_, command, paths) =>
    if !k.world.isRunning then k
    else
      let (well, k) := launch l k (command ++ paths.reverse)
      if well then k else { k with failed := true }) k

end Find

/-- Searches for files below starting points. -/
def find (l : Launcher) : Utility := fun name args w =>
  let (course, words) := Find.frontOptions Find.plainCourse args
  let starts := words.takeWhile (!Find.beginsSearch true ·)
  match Find.readQuery w course (words.drop starts.length) with
  | .error message => complain name message w
  | .ok (course, q, warnings) =>
    let w := warnings.foldl (fun w m => w.write 2 (name ++ ": " ++ m ++ "\n")) w
    let k : Find.Walk := ⟨w, false, false, false, []⟩
    let k := (if starts.isEmpty then ["."] else starts).foldl (Find.searchFrom l course q) k
    let k := Find.runCollected l k
    if k.world.isRunning then k.world.withStatus (if k.failed then 1 else 0) else k.world

end SourceCheck.Utility
