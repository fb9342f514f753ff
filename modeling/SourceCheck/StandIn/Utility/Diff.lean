import SourceCheck.StandIn.Regex.Matching
import SourceCheck.StandIn.Regex.Reader
import SourceCheck.StandIn.Shell.Printf
import SourceCheck.StandIn.Utility.DiffBeside
import SourceCheck.StandIn.Utility.Listing

/-! # Comparing files

    Two files are compared line by line, or octet by octet.  What tells them apart is
    shown as changes from the first to the second.  Directories are compared by the files
    of the same names in them.
-/

namespace SourceCheck.Utility

open SourceCheck SourceCheck.Shell SourceCheck.Text

namespace Diff

/-! ## Lines -/

def linesOf (s : List Char) : List Line :=
  (fullLines s).map fun l => if l.getLast? == some '\n' then (l.dropLast, true) else (l, false)

/-- Blank space made one blank where it stands inside, and left out at the end. -/
def squeezed : List Char → List Char
  | [] => []
  | c :: rest =>
    if isSpace c then
      let next := squeezed rest
      match next with
      | [] => []
      | ' ' :: _ => next
      | _ => ' ' :: next
    else c :: squeezed rest

/-- A text without blank space at its end. -/
def trimmed (s : List Char) : List Char := (s.reverse.dropWhile isSpace).reverse

/-- A text with its tabs made blanks up to the next stop, from a column on. -/
def untabbed (column : Nat) : List Char → List Char
  | [] => []
  | '\t' :: rest => List.replicate (8 - column % 8) ' ' ++ untabbed (column + 8 - column % 8) rest
  | c :: rest => c :: untabbed (column + 1) rest

def keyOf (o : Options) (l : Line) : Line :=
  let text := l.1
  let text := if o.has "strip-trailing-cr" && text.getLast? == some '\r' then text.dropLast else text
  let text := if o.has "ignore-case" then text.map toSmall else text
  let text := if o.has "ignore-tab-expansion" then untabbed 0 text else text
  if o.has "ignore-all-space" then (text.filter (!isSpace ·), true)
  else if o.has "ignore-space-change" then (squeezed text, true)
  else if o.has "ignore-trailing-space" then (trimmed text, true)
  else (text, l.2)

/-- The keys of two texts as numbers, the same for lines that are taken as the same. -/
def pairOf (o : Options) (old new : List Line) : Pair :=
  let number := fun (state : Std.HashMap (String × Bool) Nat × Array Nat) (l : Line) =>
    let (seen, keys) := state
    let (text, isEnded) := keyOf o l
    let key := (String.ofList text, isEnded)
    match seen[key]? with
    | some n => (seen, keys.push n)
    | none => (seen.insert key seen.size, keys.push seen.size)
  let (seen, oldKeys) := old.foldl number ({}, #[])
  let (_, newKeys) := new.foldl number (seen, #[])
  ⟨oldKeys, newKeys⟩

/-! ## Showing changes -/

/-- A line after a mark, and a note if no line feed ends it. -/
def markedLine (mark : List Char) (l : Line) : List Char :=
  mark ++ l.1 ++ ['\n'] ++ (if l.2 then [] else "\\ No newline at end of file\n".toList)

/-- The lines of a row from one to before another. -/
def slice (lines : Array Line) (start stop : Nat) : List Line := (lines.extract start stop).toList

/-- The numbers of the first and the last line of some, which are counted from zero. -/
def plainRange (start stop : Nat) : List Char :=
  if stop ≤ start + 1 then digits stop else digits (start + 1) ++ ',' :: digits stop

def plainHunk (old new : Array Line) (h : Hunk) : List Char :=
  let letter := if h.oldStart = h.oldStop then 'a' else if h.newStart = h.newStop then 'd' else 'c'
  let gone := (slice old h.oldStart h.oldStop).flatMap (markedLine ['<', ' '])
  let come := (slice new h.newStart h.newStop).flatMap (markedLine ['>', ' '])
  plainRange h.oldStart h.oldStop ++ letter :: plainRange h.newStart h.newStop ++ ['\n'] ++ gone
    ++ (if letter = 'c' then ['-', '-', '-', '\n'] else []) ++ come

/-- Hunks that lie so close that their surroundings touch. -/
def groups (context : Nat) : List Hunk → List (List Hunk)
  | [] => []
  | h :: rest =>
    match groups context rest with
    | (next :: more) :: others =>
      if next.oldStart - h.oldStop ≤ 2 * context then (h :: next :: more) :: others
      else [h] :: (next :: more) :: others
    | _ => [[h]]

/-- The first line and the number of lines. -/
def countedRange (start stop : Nat) : List Char :=
  if stop = start + 1 then digits stop
  else if stop = start then digits start ++ [',', '0']
  else digits (start + 1) ++ ',' :: digits (stop - start)

/-- The lines of a group of hunks with those around them, up to the end of the group. -/
def unifiedLines (old new : Array Line) (stop : Nat) : Nat → List Hunk → List Char
  | i, [] => (slice old i stop).flatMap (markedLine [' '])
  | i, h :: rest =>
    (slice old i h.oldStart).flatMap (markedLine [' '])
      ++ (slice old h.oldStart h.oldStop).flatMap (markedLine ['-'])
      ++ (slice new h.newStart h.newStop).flatMap (markedLine ['+'])
      ++ unifiedLines old new stop h.oldStop rest

/-- The lines of the old text that a group shows, from one to before another, and those of
    the new text. -/
def shownLines (context : Nat) (old new : Array Line) (group : List Hunk) :
    (Nat × Nat) × (Nat × Nat) :=
  match group.head?, group.getLast? with
  | some first, some last =>
    ((first.oldStart - context, min (last.oldStop + context) old.size),
      (first.newStart - context, min (last.newStop + context) new.size))
  | _, _ => ((0, 0), (0, 0))

def unifiedGroup (context : Nat) (old new : Array Line) (group : List Hunk) : List Char :=
  let ((i, i'), (j, j')) := shownLines context old new group
  "@@ -".toList ++ countedRange i i' ++ " +".toList ++ countedRange j j' ++ " @@\n".toList
    ++ unifiedLines old new i' i group

/-- The lines of one side of a group: those that are changed are marked. -/
def sideLines (lines : Array Line) (stop : Nat) (part : Hunk → Nat × Nat) (gone : Hunk → Bool)
    (mark : Char) : Nat → List Hunk → List Char
  | i, [] => (slice lines i stop).flatMap (markedLine [' ', ' '])
  | i, h :: rest =>
    let (start, stop') := part h
    (slice lines i start).flatMap (markedLine [' ', ' '])
      ++ (slice lines start stop').flatMap (markedLine [if gone h then mark else '!', ' '])
      ++ sideLines lines stop part gone mark stop' rest

def sideRange (start stop : Nat) : List Char :=
  if stop ≤ start + 1 then digits stop else digits (start + 1) ++ ',' :: digits stop

def sidedGroup (context : Nat) (old new : Array Line) (group : List Hunk) : List Char :=
  let ((i, i'), (j, j')) := shownLines context old new group
  let oldLines := if group.all fun h => h.oldStart = h.oldStop then []
    else sideLines old i' (fun h => (h.oldStart, h.oldStop)) (fun h => h.newStart = h.newStop) '-' i group
  let newLines := if group.all fun h => h.newStart = h.newStop then []
    else sideLines new j' (fun h => (h.newStart, h.newStop)) (fun h => h.oldStart = h.oldStop) '+' j group
  "***************\n*** ".toList ++ sideRange i i' ++ " ****\n".toList ++ oldLines
    ++ "--- ".toList ++ sideRange j j' ++ " ----\n".toList ++ newLines

def editorHunk (new : Array Line) (h : Hunk) : List Char :=
  let lines := (slice new h.newStart h.newStop).flatMap fun l => l.1 ++ ['\n']
  if h.newStart = h.newStop then plainRange h.oldStart h.oldStop ++ ['d', '\n']
  else
    let letter := if h.oldStart = h.oldStop then 'a' else 'c'
    plainRange h.oldStart h.oldStop ++ letter :: '\n' :: lines ++ ['.', '\n']

/-! ## Comparing two files -/

/-- How changes are shown. -/
inductive Style where
  | brief
  | plain
  /-- With lines around them, both texts in one. -/
  | unified (context : Nat)
  /-- With lines around them, one text after the other. -/
  | sided (context : Nat)
  | editor
  /-- Both texts side by side. -/
  | beside (columns : Columns)

/-- How many lines stand around changes. -/
def Style.context : Style → Nat
  | .unified n | .sided n => n
  | _ => 0

/-- A hunk counts; one in which only empty lines or lines that match an expression are
    changed can be left out. -/
def counts (o : Options) (wide : Bool) (old new : Array Line) (h : Hunk) : Bool :=
  let lines := slice old h.oldStart h.oldStop ++ slice new h.newStart h.newStop
  let patterns := (o.values "ignore-matching-lines").filterMap fun p =>
    (Regex.read .basicSearch (Regex.toLetters wide p.toList)).toOption
  let isMatched := fun (l : Line) => patterns.any fun r =>
    let subject : Regex.Subject := ⟨(Regex.toLetters wide l.1).toArray, false, false, wide⟩
    (Regex.search? subject r 0).isSome
  !(lines.all fun l => (o.has "ignore-blank-lines" && l.1.isEmpty) || isMatched l)

def isBinary (s : List Char) : Bool := (s.take 32768).contains (Char.ofNat 0)

/-- A comparison under way: the world, and the worst status so far. -/
structure Progress where
  world : World
  status : Nat

/-- What is asked for. -/
structure Task where
  name : String
  options : Options
  style : Style
  written : List String

namespace Progress

/-- Something is written, and the status becomes worse. -/
def say (k : Progress) (status : Nat) (text : String) : Progress :=
  ⟨k.world.print text, max k.status status⟩

def refuse (k : Progress) (t : Task) (path : String) (e : SystemError) : Progress :=
  ⟨k.world.write 2 (t.name ++ ": " ++ path ++ ": " ++ e.wording ++ "\n"), 2⟩

end Progress

/-- The time at which a file was changed, as it is shown after its name. -/
def stamp (w : World) (path : String) : List Char :=
  let time := match w.placeOf path with
    | .ok ⟨place, some _⟩ => if path = "-" then w.now else w.changedAt place
    | _ => if path = "-" then w.now else 0
  let nanos := digits (time % 1000000 * 1000)
  showDate ⟨time / 1000000⟩ "%Y-%m-%d %H:%M:%S.".toList ++ List.replicate (9 - nanos.length) '0'
    ++ nanos ++ " +0000".toList

/-- The lines that name both files. -/
def headLines (t : Task) (w : World) (first second : String) (old new : String) : List Char :=
  let labels := t.options.values "label"
  let label := fun (i : Nat) (path : String) => match labels[i]? with
    | some l => l.toList
    | none => path.toList ++ '\t' :: stamp w path
  first.toList ++ ' ' :: label 0 old ++ '\n' :: second.toList ++ ' ' :: label 1 new ++ ['\n']

/-- Compares two texts; `heading` is written before changes are. -/
def compareTexts (t : Task) (heading : String) (old new : String) (a b : List Char)
    (k : Progress) : Progress :=
  let o := t.options
  let same := fun (k : Progress) =>
    if o.has "report-identical-files" then
      k.say 0 ("Files " ++ old ++ " and " ++ new ++ " are identical\n")
    else k
  let showsAll := match t.style with
    | .beside columns => !columns.leavesOut
    | _ => false
  -- equal texts need no comparison of their lines
  if a == b && !showsAll then same k
  else if !o.has "text" && (isBinary a || isBinary b) then
    match t.style with
    | .brief => k.say 1 ("Files " ++ old ++ " and " ++ new ++ " differ\n")
    | _ => k.say 1 ("Binary files " ++ old ++ " and " ++ new ++ " differ\n")
  else
    let oldLines := (linesOf a).toArray
    let newLines := (linesOf b).toArray
    let lacks := fun (ls : Array Line) => ls.back?.any fun l => !l.2
    let found := hunks (pairOf o oldLines.toList newLines.toList) t.style.context
      (lacks oldLines == lacks newLines)
    -- changes in blank lines may be asked not to count
    let counted := found.filter (counts o (usesUtf8 k.world) oldLines newLines)
    if counted.isEmpty && !showsAll then same k
    else
      let grouped := fun (context : Nat) =>
        (groups context found).filter fun g => g.any (counts o (usesUtf8 k.world) oldLines newLines)
      let text := fun (s : List Char) => k.say 1 (heading ++ String.ofList s)
      match t.style with
      | .brief => k.say 1 ("Files " ++ old ++ " and " ++ new ++ " differ\n")
      | .beside columns =>
        let shown := String.ofList (columns.lines oldLines newLines 0 0 counted)
        k.say (if counted.isEmpty then 0 else 1) (heading ++ shown)
      | .plain => text (counted.flatMap (plainHunk oldLines newLines))
      | .unified context =>
        text (headLines t k.world "---" "+++" old new
          ++ (grouped context).flatMap (unifiedGroup context oldLines newLines))
      | .sided context =>
        text (headLines t k.world "***" "---" old new
          ++ (grouped context).flatMap (sidedGroup context oldLines newLines))
      | .editor =>
        -- the changes go from the back, so that earlier lines keep their numbers
        let k := text (counted.reverse.flatMap (editorHunk newLines))
        let note := fun (k : Progress) (path : String) (ls : Array Line) =>
          if lacks ls then
            (⟨k.world.write 2 (t.name ++ ": " ++ path ++ ": No newline at end of file\n\n"), 2⟩ : Progress)
          else k
        note (note k old oldLines) new newLines

/-- What stands at a path, links followed; the standard input is a file. -/
def standing (w : World) (path : String) : Except SystemError Entry :=
  if path = "-" then .ok (.file [] 0o644)
  else match w.placeOf path with
    | .ok ⟨_, some e⟩ => .ok e
    | .ok ⟨_, none⟩ => .error .notFound
    | .error e => .error e

def below (path name : String) : String :=
  if endsInSlash path then path ++ name else path ++ "/" ++ name

/-- The names in a directory at a path, without those that are left out. -/
def namesAt (o : Options) (w : World) (path : String) : List String :=
  match w.placeOf path with
  | .ok ⟨place, some (.directory _)⟩ =>
    let left := (o.values "exclude").map fun p => patternOf p.toList
    ((namesIn w place).filter fun n => !left.any fun p => matchesPattern p n).map String.ofList
  | _ => []

/-- Two sorted rows of names merged; each name comes with whether the first and whether the
    second row has it. -/
def mergeNames : Nat → List String → List String → List (String × Bool × Bool)
  | 0, _, _ => []
  | _, [], bs => bs.map (·, false, true)
  | _, as, [] => as.map (·, true, false)
  | fuel + 1, a :: as, b :: bs =>
    if a = b then (a, true, true) :: mergeNames fuel as bs
    else if inOrder a.toList b.toList then (a, true, false) :: mergeNames fuel as (b :: bs)
    else (b, false, true) :: mergeNames fuel (a :: as) bs

/-- The text of a file; one that is not there is empty if that is asked for. -/
def content (k : Progress) (isAbsent : Bool) (path : String) :
    Except SystemError (List Char) × Progress :=
  if isAbsent then (.ok [], k)
  else
    let (s, w) := readSource path k.world
    (s, { k with world := w })

/-- The names under which two files are shown. -/
def shownNames (o : Options) (old new : String) : String × String :=
  let labels := o.values "label"
  ((labels[0]?).getD old, (labels[1]?).getD new)

/-- Compares what stands at two paths; `level` is zero for those given, one for a file in a
    directory that was given with a file, and two for those in directories; `gone` tells
    which of them are taken as empty, and `fuel` bounds the depth. -/
def comparePaths (t : Task) : Nat → Nat → Bool × Bool → String → String → Progress → Progress
  | 0, _, _, _, _, k => k
  | fuel + 1, level, gone, old, new, k =>
    let isTop := level = 0
    let a := if gone.1 then .ok none else (standing k.world old).map some
    let b := if gone.2 then .ok none else (standing k.world new).map some
    let isFolder := fun (e : Option Entry) => e.any (·.isDirectory)
    match a, b with
    | .error e, .error f => (k.refuse t old e).refuse t new f
    | .error e, .ok _ => k.refuse t old e
    | .ok _, .error e => k.refuse t new e
    | .ok a, .ok b =>
      -- a directory is compared name by name, also with one that is missing
      if isFolder a && (isFolder b || b.isNone) || isFolder b && a.isNone then
        if !isTop && !t.options.has "recursive" then
          k.say 0 ("Common subdirectories: " ++ old ++ " and " ++ new ++ "\n")
        else
          let names := mergeNames 100000 (if gone.1 then [] else namesAt t.options k.world old)
            (if gone.2 then [] else namesAt t.options k.world new)
          let fills := t.options.has "new-file"
          names.foldl (fun k (name, here, there) =>
            if !here && !fills && !(t.options.has "unidirectional-new-file") then
              k.say 1 ("Only in " ++ new ++ ": " ++ name ++ "\n")
            else if !there && !fills then k.say 1 ("Only in " ++ old ++ ": " ++ name ++ "\n")
            else comparePaths t fuel 2 (!here, !there) (below old name) (below new name) k) k
      else if isFolder a || isFolder b then
        -- a file and a directory: the file of the same name in it is meant
        if isTop then
          let (old, new) :=
            if isFolder a then (below old (String.ofList (lastName new.toList)), new)
            else (old, below new (String.ofList (lastName old.toList)))
          comparePaths t fuel 1 gone old new k
        else
          let kind := fun (e : Option Entry) => typeName (e.getD (.directory 0))
          let (old, new) := shownNames t.options old new
          k.say 1 ("File " ++ old ++ " is a " ++ kind a ++ " while file " ++ new ++ " is a "
            ++ kind b ++ "\n")
      else
        let (a, k) := content k gone.1 old
        let (b, k) := if new = "-" && old = "-" then (a, k) else content k gone.2 new
        match a, b with
        | .error e, _ => k.refuse t old e
        | _, .error e => k.refuse t new e
        | .ok a, .ok b =>
          let (shownOld, shownNew) := shownNames t.options old new
          let heading := if level < 2 then "" else
            spaced ("diff" :: t.written ++ [shownOld, shownNew]) ++ "\n"
          compareTexts t heading old new a b k

def styleOf (o : Options) : Except String Style :=
  let number := fun (key : String) (make : Nat → Style) =>
    match o.last? key with
    | none => .ok (make 3)
    | some s =>
      if !s.isEmpty && s.toList.all isDigitChar then .ok (make (digitsValue s.toList))
      else .error ("invalid context length '" ++ s ++ "'")
  let beside : Except String Style := do
    let count := fun (key : String) (usual : Nat) => match o.last? key with
      | none => .ok usual
      | some s => match (plainCount? s).filter (0 < ·) with
        | some n => .ok n
        | none => .error ("invalid " ++ key ++ " '" ++ s ++ "'")
    return .beside ⟨← count "width" 130, ← count "tabsize" 8, o.has "expand-tabs",
      o.has "suppress-common-lines", o.has "left-column"⟩
  if o.has "brief" then .ok .brief
  else match o.lastOf? ["u", "unified", "U", "c", "context", "C", "ed", "normal",
      "side-by-side"] with
    | some "side-by-side" => beside
    | some "u" => .ok (.unified 3)
    | some "unified" => number "unified" .unified
    | some "U" => number "U" .unified
    | some "c" => .ok (.sided 3)
    | some "context" => number "context" .sided
    | some "C" => number "C" .sided
    | some "ed" => .ok .editor
    | _ => .ok .plain

/-- Digits after a letter ask for so many lines around changes. -/
def spreadNumber (a : String) : String :=
  match a.toList with
  | '-' :: 'u' :: c :: cs => if (c :: cs).all isDigitChar then "-U" ++ String.ofList (c :: cs) else a
  | _ => a

/-- The words of some arguments that are no operands; both are given from the last one
    on. -/
def withoutOperands : List String → List String → List String
  | [], _ => []
  | args, [] => args
  | a :: args, p :: operands =>
    if a = p then withoutOperands args operands else a :: withoutOperands args (p :: operands)

def optionWords (args operands : List String) : List String :=
  (withoutOperands args.reverse operands.reverse).reverse

def complainArguments (name message : String) (w : World) : World :=
  complainWith 2 name (message ++ "\n" ++ name ++ ": Try '" ++ name
    ++ " --help' for more information.") w

end Diff

/-- Compares files line by line. -/
def diff : Utility := fun name args w =>
  let specs : List OptionSpec := [flag 'a' "text", flag 'b' "ignore-space-change",
    flag 'B' "ignore-blank-lines", flag 'c' "", taking 'C' "", (none, "context", .perhaps),
    flag 'd' "minimal", flag 'e' "ed", flag 'E' "ignore-tab-expansion", flag 'i' "ignore-case",
    taking 'I' "ignore-matching-lines", taking 'L' "label", flag 'N' "new-file",
    wordFlag "normal", flag 'p' "show-c-function", flag 'P' "unidirectional-new-file",
    flag 'q' "brief", flag 'r' "recursive", flag 's' "report-identical-files", flag 't' "expand-tabs",
    flag 'T' "initial-tab", flag 'u' "", taking 'U' "", (none, "unified", .perhaps),
    flag 'w' "ignore-all-space", taking 'x' "exclude", flag 'Z' "ignore-trailing-space",
    (none, "color", .perhaps), wordFlag "strip-trailing-cr", wordFlag "speed-large-files",
    wordFlag "no-dereference", flag 'y' "side-by-side", taking 'W' "width",
    wordTaking "tabsize", wordFlag "left-column", wordFlag "suppress-common-lines"]
  match readOptions specs (args.map Diff.spreadNumber) with
  | .error message => Diff.complainArguments name message w
  | .ok o =>
    match Diff.styleOf o, o.args with
    | .error message, _ => Diff.complainArguments name message w
    | .ok style, [old, new] =>
      let isGone := fun (path : String) =>
        o.has "new-file" && (match Diff.standing w path with
          | .error .notFound => true
          | _ => false)
      -- two files that are both missing are an error again
      let gone := (isGone old, isGone new)
      let gone := if gone == (true, true) then (false, false) else gone
      let k := Diff.comparePaths ⟨name, o, style, Diff.optionWords args o.args⟩ 200 0 gone old new ⟨w, 0⟩
      k.world.withStatus k.status
    | .ok _, [] => Diff.complainArguments name ("missing operand after '" ++ name ++ "'") w
    | .ok _, [a] => Diff.complainArguments name ("missing operand after '" ++ a ++ "'") w
    | .ok _, _ :: _ :: extra :: _ => Diff.complainArguments name ("extra operand '" ++ extra ++ "'") w

/-! ## Comparing octets -/

namespace Cmp

/-- Where two texts differ first: the number of the octet, the number of the line, and both
    octets; nothing if one goes on where the other ends. -/
def difference (octet line : Nat) : List Char → List Char → Option (Nat × Nat × Char × Char)
  | a :: as, b :: bs =>
    if a == b then difference (octet + 1) (if a == '\n' then line + 1 else line) as bs
    else some (octet, line, a, b)
  | _, _ => none

def differences (octet : Nat) : List Char → List Char → List (Nat × Char × Char)
  | a :: as, b :: bs =>
    if a == b then differences (octet + 1) as bs else (octet, a, b) :: differences (octet + 1) as bs
  | _, _ => []

def octal (c : Char) : List Char := padLeft 3 (Nat.toDigits 8 c.toNat)

/-- An octet as it is shown beside its digits. -/
def visible (c : Char) : List Char :=
  let n := c.toNat
  let (high, n) := if 128 ≤ n then (['M', '-'], n - 128) else ([], n)
  high ++ (if n < 32 then ['^', Char.ofNat (n + 64)] else if n = 127 then ['^', '?'] else [Char.ofNat n])

end Cmp

/-- Compares files octet by octet. -/
def cmp : Utility := fun name args w =>
  match readOptions [flag 'b' "print-bytes", taking 'i' "ignore-initial", flag 'l' "verbose",
      taking 'n' "bytes", flag 's' "quiet", wordFlag "silent"] args with
  | .error message => Diff.complainArguments name message w
  | .ok o =>
    let skips := match o.last? "ignore-initial" with
      | none => [some 0, some 0]
      | some s => match (s.toList.splitOnP (· == ':')).map countWithUnit? with
        | [n] => [n, n]
        | ns => ns
    let limit := (o.last? "bytes").map fun s => (s, countWithUnit? s.toList)
    match o.args, skips, limit with
    | [], _, _ => Diff.complainArguments name ("missing operand after '" ++ name ++ "'") w
    | _, _, some (s, none) => Diff.complainArguments name ("invalid --bytes value '" ++ s ++ "'") w
    | first :: others, [some skipFirst, some skipSecond], _ =>
      -- the counts behind the two names skip octets as well
      let second := others.head?.getD "-"
      let own := ((others.drop 1).map fun s => (s, countWithUnit? s.toList))
      match own.find? (·.2.isNone), own.drop 2 with
      | some (s, _), _ =>
        Diff.complainArguments name ("invalid --ignore-initial value '" ++ s ++ "'") w
      | none, (extra, _) :: _ => Diff.complainArguments name ("extra operand '" ++ extra ++ "'") w
      | none, [] =>
        let skip := fun (i plain : Nat) => ((own[i]?).bind (·.2)).getD plain
        let quiet := o.has "quiet" || o.has "silent"
        let refuse := fun (path : String) (e : SystemError) (w : World) =>
          if quiet then w.withStatus 2
          else complainWith 2 name (path ++ ": " ++ e.wording) w
        let (a, w) := readSource first w
        let (b, w) := if second = first then (a, w) else readSource second w
        match a, b with
        | .error e, _ => refuse first e w
        | _, .error e => refuse second e w
        | .ok a, .ok b =>
          let cut := fun (s : List Char) => match limit with
            | some (_, some n) => s.take n
            | _ => s
          let a := cut (a.drop (skip 0 skipFirst))
          let b := cut (b.drop (skip 1 skipSecond))
          let shorter := if a.length < b.length then first else second
          let common := min a.length b.length
          -- the shorter text ends first, which is told once nothing else differs
          let ended := fun (w : World) =>
            if a.length = b.length then w
            else if quiet then w.withStatus 1
            else
              let lines := (if a.length < b.length then a else b).filter (· == '\n') |>.length
              let place :=
                if common = 0 then " which is empty"
                else if o.has "verbose" then " after byte " ++ Number.natText common
                else if ((a.take common).getLast? == some '\n') then
                  " after byte " ++ Number.natText common ++ ", line " ++ Number.natText lines
                else " after byte " ++ Number.natText common ++ ", in line "
                  ++ Number.natText (lines + 1)
              complain name ("EOF on " ++ shorter ++ place) w
          if o.has "verbose" && !quiet then
            let all := Cmp.differences 1 a b
            let width := (digits common).length
            let w := ended (w.withStatus (if all.isEmpty then 0 else 1))
            putAll (all.map fun (n, x, y) =>
              padLeft width (digits n) ++ ' ' :: Cmp.octal x
                ++ (if o.has "print-bytes" then ' ' :: padRight 4 (Cmp.visible x) else [])
                ++ ' ' :: Cmp.octal y
                ++ (if o.has "print-bytes" then ' ' :: Cmp.visible y else []) ++ ['\n']) w
          else match Cmp.difference 1 1 a b with
            | none => ended (w.withStatus 0)
            | some (n, line, x, y) =>
              if quiet then w.withStatus 1
              else
                let unit := if usesUtf8 w || o.has "print-bytes" then "byte " else "char "
                let shown := if o.has "print-bytes" then
                    " is ".toList ++ Cmp.octal x ++ ' ' :: Cmp.visible x ++ ' ' :: Cmp.octal y
                      ++ ' ' :: Cmp.visible y
                  else []
                (put ((first ++ " " ++ second ++ " differ: " ++ unit
                  ++ Number.natText n ++ ", line " ++ Number.natText line).toList ++ shown ++ ['\n'])
                  w).withStatus 1
    | _, _, _ =>
      Diff.complainArguments name ("invalid --ignore-initial value '"
        ++ (o.last? "ignore-initial").getD "" ++ "'") w

end SourceCheck.Utility
