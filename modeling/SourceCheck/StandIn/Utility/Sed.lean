import SourceCheck.StandIn.Utility.Files
import SourceCheck.StandIn.Utility.SedScript

/-! # The stream editor

    The editor reads one line after the other, runs its script on each, and prints
    what has become of the line.  One more text is held from line to line.
-/

namespace SourceCheck.Utility

open SourceCheck SourceCheck.Text SourceCheck.Shell

namespace Sed

/-! ## State -/

/-- Where a row of lines stands for a command. -/
inductive Row where
  | before
  /-- It has started, and ends after a line or where an address says. -/
  | inside (stop : Option Nat)
  | past
  deriving DecidableEq, Repr

/-- A line, and whether a line feed stood behind it. -/
structure Line where
  text : List Char
  /-- A line feed stood behind it. -/
  ended : Bool
  deriving Repr

/-- What is printed after a line. -/
inductive Later where
  | text (s : List Char)
  | file (path : String)
  deriving Repr

/-- What is asked for. -/
structure Plan where
  commands : Array Command
  /-- Lines are printed only where a command says so. -/
  quiet : Bool
  /-- Each file is a text of its own. -/
  separate : Bool
  /-- Files are changed; the ending for the names of the old ones, if they are
      kept. -/
  inPlace : Option String
  ending : Char
  /-- How wide shown lines are. -/
  width : Nat
  /-- Letters are read as UTF-8. -/
  wide : Bool

/-- Where the editor stands. -/
structure State where
  world : World
  files : List String
  file : String
  lines : List Line
  isOpen : Bool
  number : Nat
  line : Line
  held : Line
  /-- Something was replaced since the line was read. -/
  replaced : Bool
  /-- Where the rows of lines stand, for each command. -/
  rows : Array Row
  lastUsed : Option Regex
  /-- What is printed after the line. -/
  later : List Later
  /-- What was printed, in pieces, the last one first. -/
  out : List (List Char)
  /-- The last line that was printed has no line feed. -/
  outOpen : Bool
  /-- What was written to files, each in pieces, the last one first. -/
  written : List (String × List (List Char))
  /-- The lines that were not yet read of files read line by line. -/
  sources : List (String × List (List Char))
  next : Nat
  /-- The line is read on without a new one. -/
  keepsLine : Bool
  /-- Some file could not be read. -/
  failed : Bool
  ending : Option Nat

/-- The line feed that is owed is printed. -/
def State.settle (p : Plan) (s : State) : State :=
  if s.outOpen then { s with out := [p.ending] :: s.out, outOpen := false } else s

def State.print (p : Plan) (text : List Char) (s : State) : State :=
  let s := s.settle p
  { s with out := text :: s.out }

def State.printLine (p : Plan) (text : List Char) (ended : Bool) (s : State) : State :=
  let s := s.print p (if ended then text ++ [p.ending] else text)
  { s with outOpen := !ended }

def State.writeLine (p : Plan) (path : String) (text : List Char) (ended : Bool) (s : State) : State :=
  if path = "/dev/stdout" && p.inPlace.isNone then s.printLine p text ended
  else
    let old := (s.written.lookup path).getD []
    let new := (if ended then text ++ [p.ending] else text) :: old
    { s with written := (path, new) :: s.written.filter (·.1 != path) }

def State.abort (message : String) (status : Nat) (s : State) : State :=
  { s with world := s.world.write 2 ("sed: " ++ message ++ "\n"), ending := some status }

/-! ## Reading lines -/

def linesOf (ending : Char) (s : List Char) : List Line :=
  (piecesOf ending s).map fun l =>
    if l.getLast? == some ending then ⟨l.dropLast, true⟩ else ⟨l, false⟩

/-- What was printed goes into the file that is changed. -/
def State.finishFile (p : Plan) (s : State) : State :=
  match p.inPlace with
  | none => s
  | some ending =>
    if !s.isOpen then s
    else
      let new := toOctets (String.ofList s.out.reverse.flatten)
      match s.world.placeOf s.file with
      | .ok ⟨place, some (.file old mode)⟩ =>
        let w := s.world.putEntry place (.file new mode)
        let backup := if ending.toList.contains '*' then
            String.ofList (ending.toList.flatMap fun c => if c = '*' then s.file.toList else [c])
          else s.file ++ ending
        let w := if ending.isEmpty then w
          else match w.placeOf backup with
            | .ok ⟨place, _⟩ => w.putEntry place (.file old mode)
            | .error _ => w
        { s with world := w, out := [], outOpen := false }
      | _ => { s with out := [] }

/-- Files are opened until one has lines; `fuel` bounds the files. -/
def State.openNext (p : Plan) : Nat → State → State
  | 0, s => s
  | fuel + 1, s =>
    if s.ending.isSome || !s.lines.isEmpty then s
    else
      match s.files with
      | [] => s
      | path :: rest =>
        let s := { (s.finishFile p) with files := rest, isOpen := false }
        let isFile := match s.world.stat path with
          | .ok (.file _ _) => true
          | _ => false
        let isThere := (s.world.stat path).toOption.isSome
        -- only a regular file can be edited in place
        if p.inPlace.isSome && isThere && !isFile then
          s.abort ("couldn't edit " ++ path ++ ": not a regular file") 4
        else
          let (content, w) := readSource path s.world
          let s := { s with world := w }
          match content with
          | .error .isDirectory => s.abort ("read error on " ++ path ++ ": Is a directory") 4
          | .error e =>
            let w := s.world.write 2 ("sed: can't read " ++ path ++ ": " ++ e.wording ++ "\n")
            State.openNext p fuel { s with world := w, failed := true }
          | .ok text =>
            let s := { s with file := path, lines := linesOf p.ending text, isOpen := true }
            -- files that are edited one by one count their lines anew
            let s := if p.separate then
                { s with number := 0, rows := s.rows.map fun _ => .before, sources := [] } else s
            State.openNext p fuel s

/-- The editor goes on to where lines are. -/
def State.advance (p : Plan) (s : State) : State := s.openNext p (s.files.length + 1)

/-- No line follows, after looking into the files that follow. -/
def State.isLast (p : Plan) (s : State) : Bool × State :=
  if !s.lines.isEmpty then (false, s)
  else if p.separate then (true, s)
  else
    let s := s.advance p
    (s.lines.isEmpty, s)

def State.read (p : Plan) (s : State) : Option Line × State :=
  let s := s.advance p
  match s.lines with
  | [] => (none, s)
  | l :: rest => (some l, { s with lines := rest, number := s.number + 1 })

/-! ## Addresses -/

def subjectOf (p : Plan) (e : Expression) (text : List Char) : Regex.Subject :=
  ⟨(Regex.toLetters p.wide text).toArray, e.folds, e.hasLines, p.wide⟩

/-- The expression that is meant, which then is the one used last. -/
def State.use (e : Expression) (s : State) : Option Regex × State :=
  match e.regex with
  | some r => (some r, { s with lastUsed := some r })
  | none =>
    match s.lastUsed with
    | some r => (some r, s)
    | none => (none, { s with
        world := s.world.write 2 "sed: -e expression #1, char 0: no previous regular expression\n"
        ending := some 1 })

def State.isAt (p : Plan) (a : Address) (s : State) : Bool × State :=
  match a with
  | .line n => (s.number == n, s)
  | .step first distance => (first ≤ s.number && (s.number - first) % distance == 0, s)
  | .last => s.isLast p
  | .found e =>
    match s.use e with
    | (some r, s) => ((Regex.search? (subjectOf p e s.line.text) r 0).isSome, s)
    | (none, s) => (false, s)

/-- The line is meant by a command, apart from its negation. -/
def State.isMeant (p : Plan) (i : Nat) (c : Command) (s : State) : Bool × State :=
  let setRow := fun (row : Row) (s : State) => { s with rows := s.rows.setIfInBounds i row }
  match c.first, c.last with
  | none, _ => (true, s)
  | some a, none => s.isAt p a
  | some a, some e =>
    let row := (s.rows[i]?).getD .before
    let starts := fun (s : State) =>
      -- a range that was left starts again, but not at a line number that is past
      let isOver := match row, a with
        | .past, .line _ => true
        | _, _ => false
      let (here, s) := if isOver then (false, s) else s.isAt p a
      if !here then (false, s)
      else
        match e with
        | .at (.line n) =>
          (true, setRow (if n ≤ s.number then .past else .inside (some n)) s)
        | .plus n =>
          (true, setRow (if n = 0 then .past else .inside (some (s.number + n))) s)
        | .multiple n =>
          let stop := if n = 0 then s.number else (s.number + n - 1) / n * n
          (true, setRow (if stop ≤ s.number then .past else .inside (some stop)) s)
        | .at _ => (true, setRow (.inside none) s)
    let isOpen := match row with
      | .inside _ => true
      | .before => c.startsOpen
      | .past => false
    if !isOpen then starts s
    else match row, e with
      | .inside (some stop), _ =>
        -- the end was fixed when the range began
        if s.number < stop then (true, s)
        else if s.number = stop then (true, setRow .past s)
        else starts (setRow .past s)
      | _, .at b =>
        let (ends, s) := s.isAt p b
        (true, setRow (if ends then .past else .inside none) s)
      | _, _ => (true, setRow .past s)

/-! ## Replacing -/

/-- How letters are changed from here on. -/
structure Casing where
  all : CaseChange
  one : CaseChange

/-- A letter of any script in upper case, as far as one letter does. -/
def largeLetter (c : Char) : Char :=
  if c.toNat < 0x80 then Regex.large c
  else
    let isPair := fun (d : Nat) => (Regex.small (Char.ofNat (c.toNat - d))) == c && d ≤ c.toNat
    match [0x20, 1, 0x50, 0x30].find? isPair with
    | some d => if Regex.small c == c then Char.ofNat (c.toNat - d) else c
    | none => c

def Casing.apply (k : Casing) (s : List Char) : Casing × List Char :=
  let all := fun (c : Char) => match k.all with
    | .upper => largeLetter c
    | .lower => Regex.small c
    | _ => c
  match s with
  | [] => (k, [])
  | c :: rest =>
    let first := match k.one with
      | .upperOne => largeLetter c
      | .lowerOne => Regex.small c
      | _ => all c
    ({ k with one := .none }, first :: rest.map all)

def expandParts (subject : Regex.Subject) (wide : Bool) (m : Regex.Match) :
    List Part → Casing → List Char
  | [], _ => []
  | part :: rest, k =>
    match part with
    | .text s =>
      let (k, shown) := k.apply (Regex.toLetters wide s)
      shown ++ expandParts subject wide m rest k
    | .group n =>
      let (k, shown) := k.apply (m.text subject n)
      shown ++ expandParts subject wide m rest k
    | .casing c =>
      let k := match c with
        | .upper | .lower => ⟨c, .none⟩
        | .upperOne | .lowerOne => { k with one := c }
        | .none => ⟨.none, .none⟩
      expandParts subject wide m rest k

/-- Replaces matches from a place on: whether something was replaced, and the new
    letters.  `count` is the number of matches before, `lastEnd` the end of the last
    one, and `fuel` bounds the matches. -/
def replaceFrom (sub : Substitution) (r : Regex) (subject : Regex.Subject) :
    Nat → Nat → Nat → Option Nat → Bool × List Char
  | 0, start, _, _ => (false, subject.slice start subject.size)
  | fuel + 1, start, count, lastEnd =>
    match if subject.size < start then none else Regex.search? subject r start with
    | none => (false, subject.slice start subject.size)
    | some m =>
      let before := subject.slice start m.start
      let isEmpty := m.start == m.stop
      let step := subject.slice m.stop (m.stop + 1)
      if isEmpty && lastEnd == some m.start then
        let (changed, more) := replaceFrom sub r subject fuel (m.stop + 1) count none
        (changed, before ++ step ++ more)
      else
        let isReplaced := sub.first ≤ count + 1
        let shown := if isReplaced then expandParts subject subject.wide m sub.parts ⟨.none, .none⟩
          else subject.slice m.start m.stop
        if isReplaced && !sub.all then
          (true, before ++ shown ++ subject.slice m.stop subject.size)
        else
          let (changed, more) :=
            if isEmpty then replaceFrom sub r subject fuel (m.stop + 1) (count + 1) none
            else replaceFrom sub r subject fuel m.stop (count + 1) (some m.stop)
          (changed || isReplaced, before ++ shown ++ (if isEmpty then step else []) ++ more)

/-- Matches in the line are replaced. -/
def State.substitute (p : Plan) (sub : Substitution) (s : State) : State :=
  match s.use sub.expression with
  | (none, s) => s
  | (some r, s) =>
    let subject := subjectOf p sub.expression s.line.text
    let (changed, letters) := replaceFrom sub r subject (subject.size + 2) 0 0 none
    if !changed then s
    else
      let text := Regex.ofLetters letters
      let s := { s with line := { s.line with text := text }, replaced := true }
      let s := if sub.prints then s.printLine p text s.line.ended else s
      match sub.file with
      | some path => s.writeLine p path text s.line.ended
      | none => s

/-! ## Showing -/

def shownChar (c : Char) : List Char :=
  let named : List (Nat × Char) :=
    [(7, 'a'), (8, 'b'), (9, 't'), (10, 'n'), (11, 'v'), (12, 'f'), (13, 'r'), (0x5C, '\\')]
  match named.lookup c.toNat with
  | some e => ['\\', e]
  | none =>
    let n := c.toNat
    if 0x20 ≤ n && n < 0x7F then [c]
    else ['\\', Char.ofNat (0x30 + n / 64), Char.ofNat (0x30 + n / 8 % 8), Char.ofNat (0x30 + n % 8)]

def shownText (width : Nat) : Nat → List Char → List Char
  | _, [] => ['$', '\n']
  | column, c :: rest =>
    let e := shownChar c
    if width != 0 && width - 1 < column + e.length then
      '\\' :: '\n' :: e ++ shownText width e.length rest
    else e ++ shownText width (column + e.length) rest

/-! ## Running -/

/-- What is printed after the line is printed. -/
def State.flush (p : Plan) (s : State) : State :=
  let s := s.later.foldl (fun s later =>
    if s.ending.isSome then s
    else match later with
    | .text t => s.print p t
    | .file path =>
      if path = "/dev/stdin" then
        let (content, w) := s.world.readAll
        { s with world := w }.print p content
      else match s.world.readFile path with
        | .ok content => if content.isEmpty then s else s.print p content.toList
        | .error .isDirectory => s.abort ("read error on " ++ path ++ ": Is a directory") 4
        | .error _ => s) s
  { s with later := [] }

def firstLine (ending : Char) (s : List Char) : List Char := s.takeWhile (· != ending)

/-- The line is over: it is printed, and what is printed after it. -/
def State.endLine (p : Plan) (prints : Bool) (s : State) : State :=
  let s := if prints && !p.quiet then s.printLine p s.line.text s.line.ended else s
  s.flush p

def State.startLine (p : Plan) (s : State) : State :=
  if s.ending.isSome then s
  else if s.keepsLine then { s with keepsLine := false, next := 0 }
  else
    match s.read p with
    | (some l, s) => { s with line := l, replaced := false, next := 0 }
    | (none, s) => if s.ending.isSome then s else { s with ending := some (if s.failed then 2 else 0) }

def Plan.placeOf (p : Plan) (label : String) : Nat :=
  if label.isEmpty then p.commands.size
  else
    ((p.commands.findIdx? fun c => match c.op with
      | .label name => name == label
      | _ => false).map (· + 1)).getD p.commands.size

/-- A command is carried out, whose successor is the next one unless it says
    otherwise. -/
def State.act (p : Plan) (i : Nat) (c : Command) (s : State) : State :=
  let finish := fun (prints : Bool) (s : State) => (s.endLine p prints).startLine p
  match c.op with
  | .block _ | .nothing | .label _ => s
  | .number => s.print p (digits s.number ++ ['\n'])
  | .append text => { s with later := s.later ++ [.text text] }
  | .insert text => s.print p text
  | .change text =>
    -- within a range the text is written once, behind its last line
    let isInside := match c.last, (s.rows[i]?).getD .before with
      | some _, .inside _ => true
      | _, _ => false
    let s := if isInside && !c.negated then s else s.print p text
    finish false s
  | .branch label => { s with next := p.placeOf label }
  | .branchIf label =>
    if s.replaced then { s with replaced := false, next := p.placeOf label } else s
  | .branchUnless label =>
    if s.replaced then { s with replaced := false } else { s with next := p.placeOf label }
  | .delete => finish false s
  | .deleteFirst =>
    if s.line.text.contains p.ending then
      let rest := (s.line.text.dropWhile (· != p.ending)).drop 1
      let s := s.endLine p false
      { s with line := { s.line with text := rest }, keepsLine := true }.startLine p
    else finish false s
  | .quit status =>
    let s := s.endLine p true
    { s with ending := s.ending.orElse fun _ => some status }
  | .quitSilently status => { s with ending := some status }
  | .get => { s with line := s.held }
  | .getMore => { s with line := ⟨s.line.text ++ p.ending :: s.held.text, s.held.ended⟩ }
  | .hold => { s with held := s.line }
  | .holdMore => { s with held := ⟨s.held.text ++ p.ending :: s.line.text, s.line.ended⟩ }
  | .exchange => { s with line := s.held, held := s.line }
  | .list width => s.print p (shownText (width.getD p.width) 0 s.line.text)
  | .next =>
    let (isLast, s) := s.isLast p
    if isLast then finish true s
    else
      let s := if p.quiet then s else s.printLine p s.line.text s.line.ended
      let s := s.flush p
      match s.read p with
      | (some l, s) => { s with line := l }
      | (none, s) => s
  | .nextMore =>
    let (isLast, s) := s.isLast p
    if isLast then finish true s
    else
      let s := s.flush p
      match s.read p with
      | (some l, s) => { s with line := ⟨s.line.text ++ p.ending :: l.text, l.ended⟩ }
      | (none, s) => s
  | .print => s.printLine p s.line.text s.line.ended
  | .printFirst => s.printLine p (firstLine p.ending s.line.text) true
  | .read path => { s with later := s.later ++ [.file path] }
  | .readLine path =>
    let lines? : Except SystemError (List (List Char)) := match s.sources.lookup path with
      | some ls => .ok ls
      | none => (s.world.readFile path).map fun t => piecesOf p.ending t.toList
    match lines? with
    | .ok (l :: rest) =>
      { s with
        sources := (path, rest) :: s.sources.filter (·.1 != path)
        later := s.later ++ [.text l] }
    | .ok [] => { s with sources := (path, []) :: s.sources.filter (·.1 != path) }
    | .error .isDirectory => s.abort ("read error on " ++ path ++ ": Is a directory") 4
    | .error _ => s
  | .write path => s.writeLine p path s.line.text s.line.ended
  | .writeFirst path => s.writeLine p path (firstLine p.ending s.line.text) true
  | .substitute sub => s.substitute p sub
  | .letters table =>
    let text := (Regex.toLetters p.wide s.line.text).map fun c => (table.lookup c).getD c
    { s with line := { s.line with text := Regex.ofLetters text } }
  | .fileName => s.print p (s.file.toList ++ ['\n'])
  | .empty => { s with line := { s.line with text := [] } }

/-- One command is looked at, or a line is ended. -/
def State.step (p : Plan) (s : State) : State :=
  match p.commands[s.next]? with
  | none => (s.endLine p true).startLine p
  | some c =>
    let i := s.next
    let (meant, s) := { s with next := i + 1 }.isMeant p i c
    if s.ending.isSome then s
    else if meant != c.negated then s.act p i c
    else match c.op with
      | .block stop => { s with next := stop }
      | _ => s

/-- Steps until all is over; `fuel` bounds them. -/
def State.run (p : Plan) : Nat → State → State
  | 0, s => s
  | fuel + 1, s => if s.ending.isSome then s else State.run p fuel (s.step p)

/-- How many steps are taken before a script counts as one that never ends. -/
def stepLimit : Nat := 2000000

/-! ## The utility -/

/-- The files that are written to, by the commands that write. -/
def Command.target? (c : Command) : Option String :=
  match c.op with
  | .write path | .writeFirst path => some path
  | .substitute sub => sub.file
  | _ => none

def Command.label? (c : Command) : Option String :=
  match c.op with
  | .branch l | .branchIf l | .branchUnless l => some l
  | _ => none

/-- Makes the files that are written to, each empty. -/
def makeTargets : List String → World → Except World World
  | [], w => .ok w
  | path :: rest, w =>
    if path = "/dev/stdout" || path = "/dev/stderr" then makeTargets rest w
    else match w.openFile false false path with
      | .ok (_, w) => makeTargets rest w
      | .error e =>
        .error (complainWith 4 "sed" ("couldn't open file " ++ path ++ ": " ++ e.wording) w)

def putTargets (written : List (String × List (List Char))) (w : World) : World :=
  written.foldl (fun w (path, pieces) =>
    let text := String.ofList pieces.reverse.flatten
    if path = "/dev/stdout" then w.print text
    else if path = "/dev/stderr" then w.write 2 text
    else match w.placeOf path with
      | .ok ⟨place, some (.file _ mode)⟩ => w.putEntry place (.file (toOctets text) mode)
      | _ => w) w

/-- A script, and how faults in it are told. -/
structure Source where
  text : List Char
  /-- The number of the script among those on the command line, or the name of its
      file. -/
  origin : Nat ⊕ String

def Source.place (s : Source) (rest : Option (List Char)) : String :=
  match s.origin, rest with
  | .inl n, some rest =>
    "-e expression #" ++ Number.natText n ++ ", char "
      ++ Number.natText (s.text.length - rest.length) ++ ": "
  | .inl n, none => "-e expression #" ++ Number.natText n ++ ", char 0: "
  | .inr file, rest =>
    let read := s.text.take (s.text.length - (rest.getD []).length)
    let read := if read.getLast? == some '\n' then read.dropLast else read
    "file " ++ file ++ " line " ++ Number.natText ((read.filter (· == '\n')).length + 1) ++ ": "

/-- Reads scripts one after the other, or says what is wrong. -/
def readSources (setting : Setting) : Reading → List Source → Except String Reading
  | r, [] => .ok r
  | r, s :: rest =>
    match readScript setting r s.text with
    | .error f => .error (s.place f.rest ++ f.message)
    | .ok r => readSources setting r rest

/-- The commands of some scripts, or what is wrong with them and the status that tells
    so. -/
def compile (setting : Setting) (sources : List Source) :
    Except (Nat × String) (Array Command) := do
  let r ← (readSources setting ⟨[], [], false⟩ sources).mapError (1, ·)
  let commands := r.commands.reverse
  if !r.blocks.isEmpty then
    let place := (sources.getLast?.map fun s => s.place none).getD ""
    throw (1, place ++ "unmatched `\x7b'")
  let labels := commands.filterMap fun c => match c.op with
    | .label name => some name
    | _ => none
  match (commands.filterMap Command.label?).find? fun l => !l.isEmpty && !labels.contains l with
  | some l => throw (4, "can't find label for jump to `" ++ l ++ "'")
  | none => return commands.toArray

/-- The scripts among the options, and the other arguments. -/
def readSourcesOf (o : Options) (w : World) : Except World (List Source × List String × World) :=
  let rec go : Nat → List (String × Option String) → World → Except World (List Source × World)
    | _, [], w => .ok ([], w)
    | n, ("expression", some t) :: rest, w =>
      (go (n + 1) rest w).map fun (more, w) => (⟨t.toList, .inl n⟩ :: more, w)
    | n, ("file", some path) :: rest, w =>
      let (content, w) := readSource path w
      match content with
      | .error e =>
        .error (complainWith 4 "sed" ("couldn't open file " ++ path ++ ": " ++ e.wording) w)
      | .ok t =>
        let t := if t.getLast? == some '\n' then t.dropLast else t
        (go n rest w).map fun (more, w) => (⟨t, .inr path⟩ :: more, w)
    | n, _ :: rest, w => go n rest w
  if o.has "expression" || o.has "file" then
    (go 1 o.given w).map fun (sources, w) => (sources, o.args, w)
  else match o.args with
    | [] => .error ((w.write 2
        "Usage: sed [OPTION]... \x7bscript-only-if-no-other-script\x7d [input-file]...\n\n").withStatus 1)
    | script :: files => .ok ([⟨script.toList, .inl 1⟩], files, w)

def options : List OptionSpec := [
  flag 'n' "quiet", wordFlag "silent", wordFlag "debug", taking 'e' "expression", taking 'f' "file",
  flag 'E' "regexp-extended", flag 'r' "", (some 'i', "in-place", .perhaps), taking 'l' "line-length",
  wordFlag "posix", flag 'b' "binary", wordFlag "follow-symlinks", flag 's' "separate",
  flag 'u' "unbuffered", flag 'z' "null-data", wordFlag "zero-terminated", wordFlag "sandbox"]

end Sed

/-- Edits texts line by line. -/
def sed : Utility := withOptionsOr 1 Sed.options fun name o w =>
  match Sed.readSourcesOf o w with
  | .error w => w
  | .ok (sources, files, w) =>
    let wide := usesUtf8 w
    let setting : Sed.Setting := ⟨o.has "regexp-extended" || o.has "r", wide⟩
    match Sed.compile setting sources with
    | .error (status, message) => complainWith status name message w
    | .ok commands =>
      let targets := commands.toList.filterMap Sed.Command.target?
      match Sed.makeTargets targets w with
      | .error w => w
      | .ok w =>
        let isQuietScript := match sources.head?.map (·.text) with
          | some ('#' :: 'n' :: _) => true
          | _ => false
        let isInPlace := o.has "in-place"
        let plan : Sed.Plan :=
          { commands := commands
            quiet := o.has "quiet" || o.has "silent" || isQuietScript
            separate := o.has "separate" || isInPlace
            inPlace := if isInPlace then some ((o.last? "in-place").getD "") else none
            ending := if o.has "null-data" || o.has "zero-terminated" then Char.ofNat 0 else '\n'
            width := ((o.last? "line-length").bind plainCount?).getD 70
            wide := wide }
        let start : Sed.State :=
          { world := w.withStatus 0
            files := filesOr files
            file := "-"
            lines := []
            isOpen := false
            number := 0
            line := ⟨[], true⟩
            held := ⟨[], true⟩
            replaced := false
            rows := commands.map fun _ => .before
            lastUsed := none
            later := []
            out := []
            outOpen := false
            written := []
            sources := []
            next := 0
            keepsLine := false
            failed := false
            ending := none }
        let s := Sed.State.run plan Sed.stepLimit (start.startLine plan)
        let s := if isInPlace then
            let left := s.lines.flatMap fun l => l.text ++ (if l.ended then [plan.ending] else [])
            (if left.isEmpty then s else s.print plan left).finishFile plan
          else s
        let w := Sed.putTargets s.written (putAll s.out.reverse s.world)
        match s.ending with
        | some status => w.withStatus status
        | none => w.withFlow .halted

end SourceCheck.Utility
