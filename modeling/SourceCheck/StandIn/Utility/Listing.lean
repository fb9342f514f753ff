import SourceCheck.StandIn.Utility.Columns
import SourceCheck.StandIn.Utility.Moves
import SourceCheck.StandIn.Utility.VersionOrder

/-! # Listing files

    Utilities that show the names of files and what is known about them.
-/

namespace SourceCheck.Utility

open SourceCheck SourceCheck.Text SourceCheck.Shell

/-! ## What is known about a file -/

def modeLetters (e : Entry) : List Char :=
  let type := match e with
    | .file _ _ | .program _ => '-'
    | .directory _ => 'd'
    | .link _ => 'l'
    | .device _ => 'c'
  type :: permissionLetters e.mode

/-- The type of an entry with its permissions, as one number. -/
def rawMode (e : Entry) : Nat :=
  let type := match e with
    | .file _ _ | .program _ => 0o100000
    | .directory _ => 0o040000
    | .link _ => 0o120000
    | .device _ => 0o020000
  type + e.mode

def entrySize : Entry → Nat
  | .file content _ => content.length
  | .directory _ => 4096
  | .link target => target.utf8ByteSize
  | .program _ => 40000
  | .device _ => 0

/-- How many blocks of 512 octets an entry takes. -/
def entryBlocks (e : Entry) : Nat :=
  match e with
  | .link _ | .device _ => 0
  | e => (entrySize e + 4095) / 4096 * 8

def nameCount (w : World) (place : Place) (e : Entry) : Nat :=
  if e.isDirectory then
    2 + ((w.machine.files.names place).filter fun n =>
      (w.machine.files.entry? (place ++ [n])).any (·.isDirectory)).length
  else 1

def placeNumber (w : World) (place : Place) : Nat :=
  1000 + w.machine.files.entries.findIdx (·.1 == place)

/-! ## How files are listed -/

/-- How the names of files are laid out. -/
inductive ListLayout where
  | lines
  /-- One in each line, with what is known about it. -/
  | long
  | commas
  /-- In columns that are filled one after the other. -/
  | down
  /-- In columns that are filled line by line. -/
  | across
  deriving DecidableEq

def layoutOf (o : Options) : ListLayout :=
  o.given.foldl (fun layout (key, value) =>
    if key = "C" then .down
    else if key = "x" then .across
    else if key = "m" then .commas
    else if ["l", "g", "o", "numeric-uid-gid", "full-time"].contains key then .long
    else if key = "1" then (if layout = .long then .long else .lines)
    else if key = "f" then (if layout = .long then .lines else layout)
    else if key = "format" then
      match value with
      | some "across" | some "horizontal" => .across
      | some "commas" => .commas
      | some "long" | some "verbose" => .long
      | some "single-column" => .lines
      | some "vertical" => .down
      | _ => layout
    else layout) .lines

/-- How long lines may be; nothing bounds them if zero is asked for. -/
def listWidth (o : Options) (w : World) : Option Nat :=
  let columns := ((w.environment.lookup "COLUMNS").bind plainCount?).filter (0 < ·)
  match (o.last? "width").bind plainCount? with
  | some 0 => none
  | some n => some n
  | none => some (columns.getD 80)

/-- What the files of a list are ordered by. -/
inductive ListOrder where
  | name
  | time
  /-- Their sizes, the greatest one first. -/
  | size
  | ending
  /-- Their names, in which digits count as numbers. -/
  | version
  | nothing
  deriving DecidableEq

def listOrder (o : Options) : ListOrder :=
  o.given.foldl (fun order (key, value) =>
    if key = "t" then .time
    else if key = "S" then .size
    else if key = "X" then .ending
    else if key = "v" then .version
    else if key = "U" || key = "f" then .nothing
    else if key = "sort" then
      match value with
      | some "time" => .time
      | some "size" => .size
      | some "extension" => .ending
      | some "version" => .version
      | some "none" => .nothing
      | some "name" => .name
      | _ => order
    else order) .name

/-- How the kinds of files are marked behind their names. -/
inductive KindMarks where
  | none
  | directories
  | kinds
  | all
  deriving DecidableEq

def kindMarks (o : Options) : KindMarks :=
  o.given.foldl (fun marks (key, value) =>
    if key = "p" then .directories
    else if key = "file-type" then .kinds
    else if key = "F" then .all
    else if key = "classify" then
      (if value == some "never" || value == some "auto" then marks else .all)
    else if key = "indicator-style" then
      match value with
      | some "slash" => .directories
      | some "file-type" => .kinds
      | some "classify" => .all
      | _ => .none
    else marks) .none

/-- The mark behind the name of an entry; `isLong` tells that links show where they lead. -/
def KindMarks.mark (marks : KindMarks) (isLong : Bool) (e : Entry) : List Char :=
  match marks, e with
  | .none, _ => []
  | _, .directory _ => ['/']
  | .directories, _ => []
  | _, .link _ => if isLong then [] else ['@']
  | .kinds, _ => []
  | .all, e => if e.hasRunBit then ['*'] else []

/-- A name with escapes for what is not shown, and for the characters that `isSpecial`
    tells. -/
def escapedName (isSpecial : Char → Bool) (name : List Char) : List Char :=
  name.flatMap fun c =>
    if c = '\\' || isSpecial c then ['\\', c]
    else if c.toNat < 0x20 || c.toNat == 0x7F then controlEscape c
    else [c]

def shownName (o : Options) (name : List Char) : List Char :=
  let inShell := fun (name : List Char) => String.toList (shellQuotedIfNeeded (String.ofList name))
  let style : List Char → List Char := o.given.foldl (fun style (key, value) =>
    let inQuotes := fun name => '"' :: escapedName (· == '"') name ++ ['"']
    if key = "quote-name" then inQuotes
    else if key = "escape" then escapedName (· == ' ')
    else if key = "literal" then id
    else if key = "quoting-style" then
      match value with
      | some "c" | some "c-maybe" => inQuotes
      | some "escape" => escapedName (· == ' ')
      | some "shell" | some "shell-escape" => inShell
      | some "shell-always" | some "shell-escape-always" =>
        fun name => (shellQuoted (String.ofList name)).toList
      | _ => id
    else style) id
  let hidden := fun (c : Char) =>
    if o.has "hide-control-chars" && (c.toNat < 0x20 || c.toNat == 0x7F) then '?' else c
  (style name).map hidden

/-- A count of octets for people: with one decimal if it is short, and a unit; it is rounded
    up. -/
def humanCount (n : Nat) : List Char :=
  let rec go : Nat → Nat → List Char → List Char
    | 0, _, _ => digits n
    | fuel + 1, unit, letters =>
      if n < unit * 1024 || letters.length ≤ 1 then
        let tenths := (n * 10 + unit - 1) / unit
        if tenths < 100 then digits (tenths / 10) ++ '.' :: digits (tenths % 10) ++ letters.take 1
        else digits ((n + unit - 1) / unit) ++ letters.take 1
      else go fuel (unit * 1024) (letters.drop 1)
  if n < 1024 then digits n else go 10 1024 "KMGTPE".toList

/-- The time at which a file was changed, as a long list shows it. -/
def shownTime (o : Options) (w : World) (place : Place) : List Char :=
  let micros := w.changedAt place
  let halfYear := 15778476000000
  let isRecent := micros ≤ w.now && w.now < micros + halfYear
  let template := match (if o.has "full-time" then some "full-iso" else o.last? "time-style") with
    | some "long-iso" => "%Y-%m-%d %H:%M".toList
    | some "full-iso" => "%Y-%m-%d %H:%M:%S.%N %z".toList
    | some "iso" => if isRecent then "%m-%d %H:%M".toList else "%Y-%m-%d ".toList
    | some style =>
      match style.toList with
      | '+' :: template =>
        let older := template.takeWhile (· != '\n')
        let newer := template.drop (older.length + 1)
        if isRecent && older.length < template.length then newer else older
      | _ => if isRecent then "%b %e %H:%M".toList else "%b %e  %Y".toList
    | none => if isRecent then "%b %e %H:%M".toList else "%b %e  %Y".toList
  showDate ⟨micros / 1000000⟩ template

/-! ## Lists of files -/

/-- A name that is listed. -/
structure Listed where
  name : List Char
  place : Place
  entry : Entry

def endingOf (name : List Char) : List Char :=
  if name.contains '.' then '.' :: (name.reverse.takeWhile (· != '.')).reverse else []

def orderListed (o : Options) (w : World) (names : List Listed) : List Listed :=
  let byName := fun (a b : Listed) => inOrder a.name b.name
  let greaterFirst := fun (f : Listed → Nat) (a b : Listed) =>
    decide (f b < f a) || (f a == f b && byName a b)
  let sorted := fun (isBefore : Listed → Listed → Bool) =>
    let names := names.mergeSort isBefore
    if o.has "reverse" then names.reverse else names
  let names := match listOrder o with
    | .nothing => names
    | .name => sorted byName
    | .time => sorted (greaterFirst fun n => w.changedAt n.place)
    | .size => sorted (greaterFirst fun n => entrySize n.entry)
    | .ending => sorted fun a b =>
      let (x, y) := (endingOf a.name, endingOf b.name)
      if x = y then byName a b else inOrder x y
    | .version => sorted fun a b => compareVersions a.name b.name != .gt
  if o.has "group-directories-first" then
    names.filter (·.entry.isDirectory) ++ names.filter (!·.entry.isDirectory)
  else names

/-- Counts in front of names, each filled up to the longest one. -/
def inFront (isWanted : Bool) (counts : List (List Char)) : List (List Char) :=
  let width := (counts.map List.length).foldl max 0
  counts.map fun n => if isWanted then padLeft width n ++ [' '] else []

/-- The size of an entry in blocks, as the options ask it to be shown. -/
def shownBlocks (o : Options) (blocks : Nat) : List Char :=
  if o.has "human-readable" then humanCount (blocks * 512) else digits (blocks / 2)

/-- What stands in front of names: their numbers and their sizes in blocks, if asked for. -/
def fronts (o : Options) (w : World) (names : List Listed) : List (List Char) :=
  let numbers := inFront (o.has "inode") (names.map fun n => digits (placeNumber w n.place))
  let blocks := inFront (o.has "size" && !o.has "f")
    (names.map fun n => shownBlocks o (entryBlocks n.entry))
  List.zipWith (· ++ ·) numbers blocks

def longLines (o : Options) (w : World) (names : List Listed) : List (List Char) :=
  let size := fun (e : Entry) =>
    if o.has "human-readable" then humanCount (entrySize e) else digits (entrySize e)
  let columns := List.zip
    (inFront true (names.map fun n => digits (nameCount w n.place n.entry)))
    (inFront true (names.map fun n => size n.entry))
  let user := if o.has "numeric-uid-gid" then "0 ".toList else "root ".toList
  let owner := if o.has "g" then [] else user
  let group := if o.has "o" || o.has "no-group" then [] else user
  let marks := kindMarks o
  (List.zip (fronts o w names) (names.zip columns)).map fun (front, n, count, size) =>
    let target := match n.entry with
      | .link t =>
        let leads := match w.machine.files.stat n.place.dropLast t with
          | .ok e => marks.mark true e
          | .error _ => []
        " -> ".toList ++ shownName o (ofText t).toList ++ leads
      | e => marks.mark true e
    front ++ modeLetters n.entry ++ ' ' :: count ++ owner ++ group ++ size
      ++ shownTime o w n.place ++ ' ' :: shownName o n.name ++ target

def putListed (o : Options) (names : List Listed) (w : World) : World :=
  let layout := layoutOf o
  let items := (List.zip (fronts o w names) names).map fun (front, n) =>
    let text := front ++ shownName o n.name ++ (kindMarks o).mark false n.entry
    (text, (text.filter (!isContinuation ·)).length)
  if names.isEmpty then w
  else match layout, listWidth o w with
    | .long, _ => putLines (longLines o w names) w
    | .lines, _ => putLines (items.map (·.1)) w
    | .commas, width? => putLines [wrapped [','] width? items] w
    | _, none => putLines [wrapped [' '] none items] w
    | .down, some width => putLines (ColumnStyle.lines ⟨true, width⟩ items) w
    | .across, some width => putLines (ColumnStyle.lines ⟨false, width⟩ items) w

def listedIn (o : Options) (w : World) (place : Place) : List Listed :=
  let all := o.has "all" || o.has "f"
  let near := if all then [(['.'], place), (['.', '.'], place.dropLast)] else []
  let ignored := (o.values "ignore").map fun p => patternOf p.toList
  let hidden := if all || o.has "almost-all" then []
    else (o.values "hide").map fun p => patternOf p.toList
  let shown := (namesIn w place).filter fun n =>
    (all || o.has "almost-all" || n.head? != some '.')
      && !(o.has "ignore-backups" && n.getLast? == some '~')
      && !(ignored ++ hidden).any fun p => matchesPattern p n
  let here := near ++ shown.map fun n => (n, place ++ [World.pathText (String.ofList n)])
  here.filterMap fun (n, p) => (w.machine.files.entry? p).map fun e => ⟨n, p, e⟩

/-- Writes what is in a directory, and with `deep` what is in those in it; `fuel`
    bounds how deep they lie in one another. -/
def putFolder (o : Options) (deep : Bool) :
    Nat → Bool → Bool → List Char → Place → World → World
  | 0, _, _, _, _, w => w
  | fuel + 1, isFirst, isNamed, path, place, w =>
    let names := orderListed o w (listedIn o w place)
    let w := if isFirst then w else w.print "\n"
    let w := if isNamed || deep then put (path ++ [':', '\n']) w else w
    let total := (names.map fun n => entryBlocks n.entry).foldl (· + ·) 0
    let isTotalled := layoutOf o = .long || (o.has "size" && !o.has "f")
    let w := if isTotalled then put ("total ".toList ++ shownBlocks o total ++ ['\n']) w else w
    let w := putListed o names w
    if deep then
      let inner := names.filter fun n =>
        n.entry.isDirectory && n.name != ['.'] && n.name != ['.', '.']
      inner.foldl (fun w n =>
        let below := if path.getLast? == some '/' then path ++ n.name else path ++ '/' :: n.name
        putFolder o deep fuel false true below n.place w) w
    else w

/-- Lists files and directories: first what cannot be listed, then the files, then
    each directory, under its name if more than one path was given. -/
def ls : Utility := withOptionsOr 2
  [flag '1' "", flag 'a' "all", flag 'A' "almost-all", flag 'b' "escape", flag 'B' "ignore-backups",
    flag 'c' "", flag 'C' "", flag 'd' "directory", flag 'f' "", flag 'F' "",
    (none, "classify", .perhaps), flag 'g' "", flag 'G' "no-group", flag 'h' "human-readable", flag 'H' "dereference-command-line",
    flag 'i' "inode", flag 'k' "kibibytes", flag 'l' "", flag 'L' "dereference", flag 'm' "",
    flag 'n' "numeric-uid-gid", flag 'N' "literal", flag 'o' "", flag 'p' "",
    flag 'q' "hide-control-chars", flag 'Q' "quote-name", flag 'r' "reverse", flag 'R' "recursive",
    flag 's' "size", flag 'S' "", flag 't' "", flag 'u' "", flag 'U' "", flag 'v' "", flag 'x' "",
    flag 'X' "", flag 'Z' "context", taking 'I' "ignore", taking 'w' "width", taking 'T' "tabsize",
    wordTaking "hide", wordTaking "sort", wordTaking "format", wordTaking "quoting-style",
    wordTaking "indicator-style", wordFlag "file-type", wordFlag "full-time", wordTaking "time",
    (none, "color", .perhaps), wordFlag "group-directories-first", wordTaking "time-style",
    wordFlag "show-control-chars", wordFlag "author"]
  fun name o w =>
    let isLong := layoutOf o = .long
    let follows := o.has "dereference" || o.has "dereference-command-line"
      || !(isLong || o.has "directory" || kindMarks o = .all)
    let find : World → String → Except SystemError (Place × Entry) := fun w path =>
      -- a link that leads nowhere is listed itself, unless links are to be followed
      match entryAt follows w path, entryAt false w path with
      | .ok (place, some e), _ => .ok (place, e)
      | _, .ok (place, some e) =>
        if o.has "dereference" || o.has "dereference-command-line" then .error .notFound
        else .ok (place, e)
      | .error e, _ => .error e
      | _, .error e => .error e
      | _, _ => .error SystemError.notFound
    let paths := if o.args.isEmpty then ["."] else o.args
    let (found, w) := paths.foldl (fun (found, w) path =>
      match find w path with
      | .ok (place, e) => (found ++ [(⟨path.toList, place, e⟩ : Listed)], w)
      | .error e =>
        (found, (complainAbout name "cannot access" path e w).withStatus 2))
      (([] : List Listed), w.withStatus 0)
    let found := orderListed o w found
    let isOpened := fun (n : Listed) => n.entry.isDirectory && !o.has "directory"
    -- files go before the directories that are opened
    let files := found.filter (!isOpened ·)
    let folders := found.filter isOpened
    let w := putListed o files w
    let isNamed := 1 < paths.length
    (folders.foldl (fun (w, isFirst) n =>
      (putFolder o (o.has "recursive") depthLimit isFirst isNamed n.name n.place w, false))
      (w, files.isEmpty)).1

/-! ## Showing what is known -/

/-- A part of a template that shows something about a file. -/
structure StatPart where
  atLeft : Bool
  /-- Zeros stand in front of numbers. -/
  zeros : Bool
  /-- Another form is asked for. -/
  alternate : Bool
  width : Nat
  /-- How long a text is at most, and a number of digits at least. -/
  precision : Option Nat
  letter : Char

/-- What a letter in the template of `stat` stands for, and whether it is a number. -/
def statField (w : World) (path : String) (place : Place) (e : Entry) (p : StatPart) :
    List Char × Bool :=
  let text := fun (s : String) => (s.toList, false)
  let number := fun (s : List Char) => (s, true)
  let prefixed := fun (mark : String) (s : List Char) =>
    number (if p.alternate then mark.toList ++ s else s)
  let seconds := w.changedAt place / 1000000
  match p.letter with
  | 'n' => text path
  | 'N' =>
    match e with
    | .link t => text (shellQuoted path ++ " -> " ++ shellQuoted (ofText t))
    | _ => text (shellQuoted path)
  | 's' => number (digits (entrySize e))
  | 'a' => prefixed "0" (Nat.toDigits 8 e.mode)
  | 'A' => (modeLetters e, false)
  | 'f' => prefixed "0x" (Nat.toDigits 16 (rawMode e))
  | 'F' => text (typeName e)
  | 'h' => number (digits (nameCount w place e))
  -- one user, and no devices with numbers
  | 'u' | 'g' | 'W' | 't' | 'T' => number ['0']
  | 'U' | 'G' => text "root"
  | 'b' => number (digits (entryBlocks e))
  | 'B' => number "512".toList
  | 'o' => number "4096".toList
  | 'm' => text "/"
  | 'i' => number (digits (placeNumber w place))
  | 'd' => number "64".toList
  | 'D' => number "40".toList
  | 'X' | 'Y' | 'Z' => number (digits seconds)
  | 'x' | 'y' | 'z' => (showDate ⟨seconds⟩ "%Y-%m-%d %H:%M:%S.%N %z".toList, false)
  | 'w' => text "-"
  | _ => text "?"

def StatPart.shown (p : StatPart) (text : List Char) (isNumber : Bool) : List Char :=
  let text := match p.precision, isNumber with
    | some n, true => List.replicate (n - text.length) '0' ++ text
    | some n, false => text.take n
    | none, _ => text
  let missing := p.width - text.length
  if p.atLeft then text ++ List.replicate missing ' '
  else if p.zeros && isNumber then List.replicate missing '0' ++ text
  else List.replicate missing ' ' ++ text

/-- The part of a template after a percent sign, and what follows it. -/
def readStatPart (s : List Char) : Option (StatPart × List Char) :=
  let flags := s.takeWhile "-'#0+ ".toList.contains
  let rest := s.drop flags.length
  let width := rest.takeWhile isDigitChar
  let rest := rest.drop width.length
  let (precision, rest) := match rest with
    | '.' :: rest =>
      let ds := rest.takeWhile isDigitChar
      (some (decimalValue ds), rest.drop ds.length)
    | rest => (none, rest)
  match rest with
  | [] => none
  | c :: rest =>
    some (⟨flags.contains '-', flags.contains '0', flags.contains '#', decimalValue width, precision, c⟩,
      rest)

/-- What a template shows of a file; `escapes` tells that escapes are read, and `fuel` bounds
    the characters. -/
def statText (w : World) (path : String) (place : Place) (e : Entry) (escapes : Bool) :
    Nat → List Char → List Char
  | 0, _ => []
  | fuel + 1, s =>
    let go := statText w path place e escapes fuel
    match s with
    | [] => []
    | '%' :: '%' :: rest => '%' :: go rest
    | '%' :: rest =>
      match readStatPart rest with
      | none => '%' :: rest
      | some (p, rest) =>
        let (text, isNumber) := statField w path place e p
        p.shown text isNumber ++ go rest
    | '\\' :: c :: rest =>
      if escapes then
        ((if c = 'n' then '\n' else if c = 't' then '\t' else c) :: go rest)
      else '\\' :: go (c :: rest)
    | c :: rest => c :: go rest

/-- Shows what is known about files. -/
def stat : Utility := withOptions
  [flag 'L' "dereference", taking 'c' "format", wordTaking "printf", flag 't' "terse",
    flag 'f' "file-system", wordTaking "cached"]
  fun name o w =>
    if o.args.isEmpty then complainUsage 1 name "missing operand" w
    else
      let full := "  File: %n\n  Size: %-10s\tBlocks: %-10b IO Block: %-6o %F\n"
        ++ "Device: 0,%d\tInode: %-11i Links: %h\n"
        ++ "Access: (%04a/%10.10A)  Uid: (%5u/%8U)   Gid: (%5g/%8G)\n"
        ++ "Access: %x\nModify: %y\nChange: %z\n Birth: %w"
      let terse := "%n %s %b %f %u %g %D %i %h %t %T %X %Y %Z %W %o"
      let (template, ending) := match o.last? "printf", o.last? "format" with
        | some t, _ => (t.toList, [])
        | none, some t => (t.toList, ['\n'])
        | none, none => ((if o.has "terse" then terse else full).toList, ['\n'])
      o.args.foldl (fun w path =>
        let refuse := fun (e : SystemError) =>
          complain name ("cannot statx " ++ shellWord path ++ ": " ++ e.wording) w
        match entryAt (o.has "dereference") w path with
        | .ok (place, some e) =>
          put (statText w path place e (o.has "printf") (template.length + 1) template ++ ending) w
        | .ok (_, none) => refuse .notFound
        | .error e => refuse e)
        (w.withStatus 0)

end SourceCheck.Utility
