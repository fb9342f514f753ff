import SourceCheck.StandIn.Regex.Matching
import SourceCheck.StandIn.Regex.Reader
import SourceCheck.StandIn.Utility.Listing

/-! # Searching lines

    Lines of files are searched for expressions.  Each pattern may hold several
    expressions, one on a line; a line is selected if one of them is found in it.
-/

namespace SourceCheck.Utility

open SourceCheck SourceCheck.Text SourceCheck.Shell

/-! ## Patterns -/

/-- How patterns are written. -/
inductive PatternForm where
  | basic
  | extended
  | fixed
  deriving DecidableEq, Repr

/-- The rest of a text behind a set that starts it, or what is left after its first
    letter if the set is not closed. -/
def afterSet (s : List Char) : List Char :=
  match Regex.readSet .extendedSearch s with
  | .ok (_, rest) => rest
  | .error _ => s

/-- The notices about an extended expression: operators with nothing before them;
    `starts` tells that an expression starts here, and `fuel` bounds the letters. -/
def patternNotices : Nat → Bool → List Char → List String
  | 0, _, _ => []
  | fuel + 1, starts, s =>
    match s with
    | [] => []
    | '\\' :: _ :: rest => patternNotices fuel false rest
    | '[' :: rest => patternNotices fuel false (afterSet rest)
    | c :: rest =>
      let here :=
        if !starts then []
        else if c == '*' || c == '+' || c == '?' then
          [String.ofList [c] ++ " at start of expression"]
        else if c == '\x7b' then ["\x7b...\x7d at start of expression"]
        else []
      let starts := c == '(' || c == '|' || (starts && (c == '^' || !here.isEmpty))
      here ++ patternNotices fuel starts rest

/-- A set is written as the name of a class alone; `fuel` bounds the letters. -/
def hasBareClass : Nat → List Char → Bool
  | 0, _ => false
  | fuel + 1, s =>
    match s with
    | [] => false
    | '\\' :: _ :: rest => hasBareClass fuel rest
    | '[' :: ':' :: rest =>
      let after := afterSet (':' :: rest)
      let inside := (':' :: rest).take (rest.length + 1 - after.length)
      inside.length > 2 && inside.dropLast.getLast? == some ':' || hasBareClass fuel after
    | '[' :: rest => hasBareClass fuel (afterSet rest)
    | _ :: rest => hasBareClass fuel rest

def readPattern (form : PatternForm) (s : List Char) : Except String Regex :=
  match form with
  | .fixed => .ok (.ofText s)
  | form =>
    let dialect := if form = .extended then Regex.Dialect.extendedSearch else .basicSearch
    match Regex.read dialect s with
    | .error fault => .error fault.wording
    | .ok r =>
      if hasBareClass (s.length + 1) s then
        .error "character class syntax is [[:space:]], not [:space:]"
      else .ok r

/-! ## Selecting -/

/-- What is searched for. -/
structure Quarry where
  patterns : List Regex
  /-- Small and large letters are the same. -/
  folds : Bool
  /-- Letters are read as UTF-8. -/
  wide : Bool
  wholeLines : Bool
  wholeWords : Bool

def Quarry.subject (q : Quarry) (line : List Char) : Regex.Subject :=
  ⟨(Regex.toLetters q.wide line).toArray, q.folds, false, q.wide⟩

/-- The end of the longest match of an expression from a place. -/
def Quarry.endFrom? (q : Quarry) (s : Regex.Subject) (r : Regex) (start : Nat) : Option Nat :=
  if q.wholeLines then
    if start = 0 && (Regex.endsFrom s r 0).contains s.size then some s.size else none
  else if q.wholeWords then
    if (s.before start).any Regex.isWordLetter then none
    else ((Regex.endsFrom s r start).filter fun stop =>
      !(s.after stop).any Regex.isWordLetter).getLast?
  else (Regex.matchFrom? s r start s.size).map (·.stop)

/-- The first match from a place on, of several expressions the longest; `fuel`
    bounds the places. -/
def Quarry.searchFrom? (q : Quarry) (s : Regex.Subject) : Nat → Nat → Option (Nat × Nat)
  | 0, _ => none
  | fuel + 1, start =>
    if s.size < start then none
    else
      match (q.patterns.filterMap fun r => q.endFrom? s r start).max? with
      | some stop => some (start, stop)
      | none => if q.wholeLines then none else q.searchFrom? s fuel (start + 1)

def Quarry.isIn (q : Quarry) (line : List Char) : Bool :=
  let s := q.subject line
  (q.searchFrom? s (s.size + 2) 0).isSome

/-- The matches in a line that are not empty; `fuel` bounds them. -/
def Quarry.matchesFrom (q : Quarry) (s : Regex.Subject) : Nat → Nat → List (Nat × Nat)
  | 0, _ => []
  | fuel + 1, start =>
    match q.searchFrom? s (s.size + 2) start with
    | none => []
    | some (first, stop) =>
      if stop ≤ first then q.matchesFrom s fuel (first + 1)
      else (first, stop) :: q.matchesFrom s fuel stop

/-! ## What is shown -/

/-- What is asked for when files are searched. -/
structure GrepPlan where
  quarry : Quarry
  /-- Lines without a match are selected. -/
  inverted : Bool
  /-- Only the count of lines is shown. -/
  counts : Bool
  /-- Only the names of files with selected lines are shown, or of those without. -/
  names : Option Bool
  onlyMatches : Bool
  quiet : Bool
  /-- Nothing is said about files that cannot be read. -/
  silent : Bool
  numbers : Bool
  /-- The places of lines in octets are shown. -/
  offsets : Bool
  /-- The names of files are shown with lines. -/
  withNames : Bool
  zeroNames : Bool
  /-- The most lines that are selected of a file. -/
  most : Option Nat
  /-- How many lines before a selected one are shown. -/
  before : Nat
  /-- How many lines after a selected one are shown. -/
  after : Nat
  /-- What is shown between groups of lines, if the lines around are shown. -/
  separator : Option String
  asText : Bool
  skipsBinary : Bool
  ending : Char
  /-- The name of the standard input. -/
  label : String

/-- A line of a file: its number, the place where it starts, and its text. -/
structure NumberedLine where
  number : Nat
  offset : Nat
  text : List Char

/-- The lines of a file with their numbers. -/
def withNumbers : Nat → Nat → List (List Char) → List NumberedLine
  | _, _, [] => []
  | n, offset, l :: rest => ⟨n, offset, l⟩ :: withNumbers (n + 1) (offset + l.length + 1) rest

/-- What stands in front of a line; `mark` follows each part. -/
def GrepPlan.front (p : GrepPlan) (file : String) (mark : Char) (number offset : Nat) : List Char :=
  (if p.withNames then file.toList ++ [if p.zeroNames then Char.ofNat 0 else mark] else [])
    ++ (if p.numbers then digits number ++ [mark] else [])
    ++ (if p.offsets then digits offset ++ [mark] else [])

def GrepPlan.isForeign (p : GrepPlan) (line : List Char) : Bool :=
  !p.asText && p.quarry.wide && (Regex.toLetters true line).any Regex.isOctetLetter

def GrepPlan.shown (p : GrepPlan) (file : String) (l : NumberedLine) : List Char :=
  if p.onlyMatches then
    if p.inverted then []
    else
      let s := p.quarry.subject l.text
      (p.quarry.matchesFrom s (s.size + 2) 0).flatMap fun (start, stop) =>
        let before := Regex.ofLetters (s.slice 0 start)
        p.front file ':' l.number (l.offset + before.length) ++ Regex.ofLetters (s.slice start stop)
          ++ [p.ending]
  else p.front file ':' l.number l.offset ++ l.text ++ [p.ending]

/-- Where the search of a file stands. -/
structure GrepState where
  /-- How many lines were selected. -/
  count : Nat
  /-- What was shown, in pieces, the last one first. -/
  out : List (List Char)
  /-- The lines before, the last one first, that were not shown. -/
  waiting : List NumberedLine
  /-- How many lines after the last selected one are still to be shown. -/
  owed : Nat
  /-- The number of the last line that was shown. -/
  last : Option Nat
  /-- The file turned out to be no text. -/
  foreign : Bool

def GrepPlan.contextLine (p : GrepPlan) (file : String) (l : NumberedLine) : List Char :=
  p.front file '-' l.number l.offset ++ l.text ++ [p.ending]

def GrepPlan.search (p : GrepPlan) (file : String) : List NumberedLine → GrepState → GrepState
  | [], s => s
  | l :: rest, s =>
    let isFull := p.most.any (· ≤ s.count)
    -- a full count still owes the lines behind the last match
    if isFull && s.owed = 0 then s
    else
      let isSelected := !isFull && (p.quarry.isIn l.text != p.inverted)
      let showsLines := !p.counts && p.names.isNone && !p.quiet
      if isSelected then
        if !showsLines then
          let s := { s with count := s.count + 1 }
          if p.quiet || p.names.isSome then s else p.search file rest s
        else if p.isForeign l.text then
          p.search file rest { s with count := s.count + 1, foreign := true }
        else
          let waiting := (s.waiting.take p.before).reverse
          let first := (waiting.head?.map (·.number)).getD l.number
          -- a separator stands between lines that do not follow each other
          let isApart := s.last.any fun n => n + 1 < first
          let gap := match p.separator with
            | some t => if isApart then [t.toList ++ ['\n']] else []
            | none => []
          let context := if p.onlyMatches then [] else waiting.map (p.contextLine file)
          p.search file rest
            { s with
              count := s.count + 1
              out := p.shown file l :: (context.reverse ++ gap ++ s.out)
              waiting := []
              owed := p.after
              last := some l.number }
      else if s.owed ≠ 0 && showsLines then
        let shown := if p.onlyMatches then [] else p.contextLine file l
        p.search file rest
          { s with out := shown :: s.out, owed := s.owed - 1, last := some l.number }
      else p.search file rest { s with waiting := l :: s.waiting.take p.before }

/-- Searches a text; tells whether lines were selected, and the number of the line
    after which a group of lines would stand apart. -/
def GrepPlan.searchText (p : GrepPlan) (file : String) (isLater : Bool) (text : List Char) (w : World) :
    Bool × World :=
  let shownName := if file = "-" then p.label else file
  let isBinary := !p.asText && p.ending = '\n' && text.contains (Char.ofNat 0)
  if isBinary && p.skipsBinary then
    (false, if p.counts then put (p.front shownName ':' 0 0 ++ ['0', '\n']) w else w)
  else
    let lines := withNumbers 1 0 (endedBy p.ending text)
    let start : GrepState := ⟨0, [], [], 0, if isLater then some 0 else none, false⟩
    -- of a file that is no text only its name is told
    let plan := if isBinary && !p.counts && p.names.isNone then { p with quiet := true } else p
    let s := plan.search shownName lines start
    let isFound := s.count != 0
    let w := putAll s.out.reverse w
    let nameEnd := if p.zeroNames then [Char.ofNat 0] else ['\n']
    let w :=
      if p.quiet then w
      else
        let w := if p.counts then
            put ((if p.withNames then
              shownName.toList ++ [if p.zeroNames then Char.ofNat 0 else ':'] else [])
              ++ digits s.count ++ ['\n']) w
          else w
        match p.names with
        | some wanted => if isFound == wanted then put (shownName.toList ++ nameEnd) w else w
        | none =>
          if !p.counts && isFound && (isBinary || s.foreign) then
            w.write 2 ("grep: " ++ shownName ++ ": binary file matches\n")
          else w
    (isFound, w)

/-! ## Files -/

/-- Which files below directories are searched. -/
structure Choice where
  /-- Links inside directories are followed. -/
  follows : Bool
  /-- The rules about names of files in order, each with whether it takes a file in. -/
  rules : List (Bool × String)
  /-- Directories with these names are left out. -/
  withoutFolders : List String
  /-- Directories are passed over without a word. -/
  skipsFolders : Bool

def isNamedBy (name : List Char) (pattern : String) : Bool :=
  matchesPattern (patternOf pattern.toList) name

def Choice.takes (c : Choice) (name : List Char) : Bool :=
  match c.rules.reverse.find? fun (_, pattern) => isNamedBy name pattern with
  | some (isTaken, _) => isTaken
  | none => !(c.rules.head?.any (·.1))

/-- The files below a directory, each with its path; `fuel` bounds the depth. -/
def filesBelow (c : Choice) (w : World) : Nat → String → Place → List String
  | 0, _, _ => []
  | fuel + 1, path, place =>
    (w.machine.files.names place).flatMap fun n =>
      let name := ofText n
      let below := if path.isEmpty then name else joinText path name
      match w.machine.files.entry? (place ++ [n]) with
      | some (.directory _) =>
        if c.withoutFolders.any (isNamedBy name.toList) then []
        else filesBelow c w fuel below (place ++ [n])
      | some (.file _ _) | some (.program _) => if c.takes name.toList then [below] else []
      | some (.link _) => if c.follows && c.takes name.toList then [below] else []
      | _ => []

/-- Searches files one after the other: whether lines were selected, and whether
    something went wrong. -/
def searchFiles (name : String) (p : GrepPlan) :
    List String → Bool → Bool → World → Bool × Bool × World
  | [], found, failed, w => (found, failed, w)
  | file :: rest, found, failed, w =>
    let (content, w) := readSource file w
    match content with
    | .error e =>
      let w := if p.silent then w else complain name (file ++ ": " ++ e.wording) w
      let w := if e == .isDirectory then (p.searchText file found [] w).2 else w
      searchFiles name p rest found true w
    | .ok text =>
      let (here, w) := p.searchText file found text w
      let isGood := if p.names == some false then !here else here
      if isGood && p.quiet then (true, false, w)
      else searchFiles name p rest (found || isGood) failed w

def grepOptions : List OptionSpec := [
  flag 'E' "extended-regexp", flag 'F' "fixed-strings", flag 'G' "basic-regexp",
  flag 'P' "perl-regexp", taking 'e' "regexp", taking 'f' "file", flag 'i' "ignore-case", flag 'y' "",
  wordFlag "no-ignore-case", flag 'w' "word-regexp", flag 'x' "line-regexp", flag 'z' "null-data",
  flag 's' "no-messages", flag 'v' "invert-match", taking 'm' "max-count", flag 'b' "byte-offset",
  flag 'n' "line-number", wordFlag "line-buffered", flag 'H' "with-filename", flag 'h' "no-filename",
  wordTaking "label", flag 'o' "only-matching", flag 'q' "quiet", wordFlag "silent",
  wordTaking "binary-files", flag 'a' "text", flag 'I' "", taking 'd' "directories",
  taking 'D' "devices", flag 'r' "recursive", flag 'R' "dereference-recursive",
  wordTaking "include", wordTaking "exclude", wordTaking "exclude-from", wordTaking "exclude-dir",
  flag 'L' "files-without-match", flag 'l' "files-with-matches", flag 'c' "count", flag 'T' "initial-tab",
  flag 'Z' "null", taking 'B' "before-context", taking 'A' "after-context", taking 'C' "context",
  wordTaking "group-separator", wordFlag "no-group-separator", (none, "color", .perhaps),
  (none, "colour", .perhaps), flag 'U' "binary", flag 'u' "unix-byte-offsets"]

/-- Arguments in which a number as an option is written as an option for lines
    around; what follows a double hyphen is left alone. -/
def contextArguments : List String → List String
  | [] => []
  | "--" :: rest => "--" :: rest
  | a :: rest =>
    match a.toList with
    | '-' :: c :: cs =>
      let ds := (c :: cs).takeWhile isDigitChar
      let others := (c :: cs).drop ds.length
      if ds.isEmpty then
        let takesNext := others.getLast?.any ("efmABCdD".toList.contains ·) && c != '-'
        match takesNext, rest with
        | true, value :: more => a :: value :: contextArguments more
        | _, rest => a :: contextArguments rest
      else if others.isEmpty then "-C" :: String.ofList ds :: contextArguments rest
      else "-C" :: String.ofList ds :: String.ofList ('-' :: others) :: contextArguments rest
    | _ => a :: contextArguments rest

/-- A search is asked for in a way that cannot be understood. -/
def complainSearch (name message : String) (w : World) : World :=
  let w := if message.isEmpty then w else complain name message w
  (w.write 2 ("Usage: grep [OPTION]... PATTERNS [FILE]...\nTry 'grep --help' for more information.\n")).withStatus 2

/-- The patterns of a search: those that options give, and the other arguments. -/
def readPatterns (name : String) (o : Options) (w : World) :
    Except World (List (List Char) × List String × World) :=
  let rec go : List (String × Option String) → World → Except World (List (List Char) × World)
    | [], w => .ok ([], w)
    | ("regexp", some v) :: rest, w =>
      (go rest w).map fun (more, w) => (cutAt '\n' v.toList ++ more, w)
    | ("file", some path) :: rest, w =>
      let (content, w) := readSource path w
      match content with
      | .error e => .error (complainWith 2 name (path ++ ": " ++ e.wording) w)
      | .ok s => (go rest w).map fun (more, w) => (plainLines s ++ more, w)
    | _ :: rest, w => go rest w
  if o.has "regexp" || o.has "file" then
    (go o.given w).map fun (patterns, w) => (patterns, o.args, w)
  else match o.args with
    | [] => .error (complainSearch name "" w)
    | pattern :: files => .ok (cutAt '\n' pattern.toList, files, w)

/-- The expressions of patterns, or what is wrong with the first wrong one. -/
def compilePatterns (name : String) (form : PatternForm) (wide : Bool) (patterns : List (List Char))
    (w : World) : Except World (List Regex × World) :=
  let letters := patterns.map (Regex.toLetters wide)
  match letters.mapM (readPattern form) with
  | .error message => .error (complainWith 2 name message w)
  | .ok rs =>
    let notices := if form = .extended then
        letters.flatMap fun l => patternNotices (l.length + 1) true l
      else []
    .ok (rs, notices.foldl (fun w n => w.write 2 (name ++ ": warning: " ++ n ++ "\n")) w)

/-- Searches lines for expressions written in some form unless options say
    otherwise. -/
def grepWith (usual : PatternForm) : Utility := fun called args w =>
  let name := "grep"
  match readOptions grepOptions (contextArguments args) with
  | .error message => complainSearch called message w
  | .ok o =>
    let number := fun (key : String) => (o.last? key).map fun v => (v, plainCount? v)
    let context := ["context", "before-context", "after-context"].findSome? fun k =>
      match number k with
      | some (v, none) => some v
      | _ => none
    let most := number "max-count"
    match context, most with
    | some v, _ => complainWith 2 name (v ++ ": invalid context length argument") w
    | none, some (_, none) => complainWith 2 name "invalid max count" w
    | none, _ =>
      let form := match o.lastOf? ["extended-regexp", "fixed-strings", "basic-regexp", "perl-regexp"] with
        | some "fixed-strings" => .fixed
        | some "basic-regexp" => .basic
        | some _ => .extended
        | none => usual
      match readPatterns name o w with
      | .error w => w
      | .ok (patterns, files, w) =>
        let wide := usesUtf8 w
        match compilePatterns name form wide patterns w with
        | .error w => w
        | .ok (rs, w) =>
          let deep := o.has "recursive" || o.has "dereference-recursive"
            || o.last? "directories" == some "recurse"
          let around := ((number "context").bind (·.2)).getD 0
          let lines := fun (key : String) => ((number key).bind (·.2)).getD around
          -- a later option of the two overrides an earlier one
          let isUnnamed := o.lastOf? ["with-filename", "no-filename"]
          let choice : Choice :=
            { follows := o.has "dereference-recursive"
              rules := o.given.filterMap fun (k, v) =>
                if k == "include" then v.map (true, ·)
                else if k == "exclude" then v.map (false, ·) else none
              withoutFolders := o.values "exclude-dir"
              skipsFolders := o.last? "directories" == some "skip" }
          let plan : GrepPlan :=
            { quarry :=
                { patterns := rs
                  folds := match o.lastOf? ["ignore-case", "y", "no-ignore-case"] with
                    | some k => k != "no-ignore-case"
                    | none => false
                  wide := wide
                  wholeLines := o.has "line-regexp"
                  wholeWords := o.has "word-regexp" }
              inverted := o.has "invert-match"
              counts := o.has "count" && !(o.has "quiet" || o.has "silent")
                && (o.lastOf? ["files-with-matches", "files-without-match"]).isNone
              names := (o.lastOf? ["files-with-matches", "files-without-match"]).map
                (· == "files-with-matches")
              onlyMatches := o.has "only-matching"
              quiet := o.has "quiet" || o.has "silent"
              silent := o.has "no-messages"
              numbers := o.has "line-number"
              offsets := o.has "byte-offset"
              withNames := match isUnnamed with
                | some k => k == "with-filename"
                | none => 1 < files.length || (deep && !(files.length == 1
                    && !files.any (isFolder w)))
              zeroNames := o.has "null"
              most := most.bind (·.2)
              before := lines "before-context"
              after := lines "after-context"
              separator := match o.lastOf? ["group-separator", "no-group-separator"] with
                | some "group-separator" =>
                  if ["context", "before-context", "after-context"].any o.has then
                    o.last? "group-separator"
                  else none
                | some _ => none
                | none =>
                  if ["context", "before-context", "after-context"].any o.has then some "--" else none
              asText := o.has "text" || o.last? "binary-files" == some "text"
              skipsBinary := o.has "I" || o.last? "binary-files" == some "without-match"
              ending := if o.has "null-data" then Char.ofNat 0 else '\n'
              label := (o.last? "label").getD "(standard input)" }
          let starts := if files.isEmpty then if deep then [""] else ["-"] else files
          let chosen := starts.flatMap fun path =>
            if path = "-" then ["-"]
            else
              let here := if path.isEmpty then "." else path
              match w.placeOf here with
              | .ok ⟨place, some (.directory _)⟩ =>
                if deep then filesBelow choice w 200 path place
                else if choice.skipsFolders then [] else [path]
              | _ => if choice.rules.isEmpty || choice.takes (lastName path.toList) then [path] else []
          -- asked for no lines at all, nothing is read
          if most.bind (·.2) == some 0 then w.withStatus 1
          else
            let (found, failed, w) := searchFiles name plan chosen false false w
            w.withStatus (if failed then 2 else if found then 0 else 1)

/-- Searches lines for expressions. -/
def grep : Utility := grepWith .basic

/-- Searches lines for extended expressions. -/
def egrep : Utility := grepWith .extended

/-- Searches lines for plain texts. -/
def fgrep : Utility := grepWith .fixed

end SourceCheck.Utility
