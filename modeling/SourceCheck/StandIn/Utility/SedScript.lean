import SourceCheck.StandIn.Regex.Matching
import SourceCheck.StandIn.Regex.Reader
import SourceCheck.StandIn.Utility.Content

/-! # Scripts of the stream editor

    A script is a row of commands, each with up to two addresses that tell for which
    lines it is meant.  Blocks and branches are jumps in that row.  What is wrong with
    a script is told with the number of characters that were read.
-/

namespace SourceCheck.Utility

open SourceCheck SourceCheck.Text SourceCheck.Shell

namespace Sed

/-! ## Commands -/

/-- An expression with its flags; without one the last one used is meant. -/
structure Expression where
  regex : Option Regex
  /-- Small and large letters are the same. -/
  folds : Bool
  /-- Lines inside the text have starts and ends of their own. -/
  hasLines : Bool
  deriving Repr

/-- A line that is meant, or where a row of lines starts. -/
inductive Address where
  | line (n : Nat)
  | step (first distance : Nat)
  | last
  | found (e : Expression)
  deriving Repr

/-- Where a row of lines ends. -/
inductive Ending where
  | at (a : Address)
  /-- A number of lines after the start. -/
  | plus (n : Nat)
  | multiple (n : Nat)
  deriving Repr

/-- A change of letters. -/
inductive CaseChange where
  /-- All that follows becomes large. -/
  | upper
  /-- All that follows becomes small. -/
  | lower
  /-- The next letter becomes large. -/
  | upperOne
  /-- The next letter becomes small. -/
  | lowerOne
  /-- Nothing is changed any more. -/
  | none
  deriving DecidableEq, Repr

/-- A part of what takes the place of a match. -/
inductive Part where
  | text (s : List Char)
  /-- What a numbered part of the expression stands for. -/
  | group (n : Nat)
  | casing (c : CaseChange)
  deriving Repr

/-- What is put in the place of matches, and how. -/
structure Substitution where
  expression : Expression
  parts : List Part
  first : Nat
  /-- All matches after that one are replaced too. -/
  all : Bool
  prints : Bool
  file : Option String
  deriving Repr

/-- What a command does. -/
inductive Op where
  /-- A block is passed over unless it is meant; it ends before a command. -/
  | block (stop : Nat)
  | nothing
  | number
  /-- Text is printed after the line. -/
  | append (text : List Char)
  /-- Text is printed before the line. -/
  | insert (text : List Char)
  /-- Text is printed in the place of the lines. -/
  | change (text : List Char)
  | branch (label : String)
  /-- The script goes on at a label if something was replaced. -/
  | branchIf (label : String)
  /-- The script goes on at a label unless something was replaced. -/
  | branchUnless (label : String)
  | label (name : String)
  /-- The line is dropped. -/
  | delete
  /-- The first line of several is dropped. -/
  | deleteFirst
  | quit (status : Nat)
  /-- The end without printing, with a status. -/
  | quitSilently (status : Nat)
  /-- The held text takes the place of the line. -/
  | get
  /-- The held text is added to the line. -/
  | getMore
  /-- The line is held. -/
  | hold
  /-- The line is added to the held text. -/
  | holdMore
  /-- The line and the held text change places. -/
  | exchange
  /-- The line is shown with all its characters. -/
  | list (width : Option Nat)
  /-- The next line takes the place of this one. -/
  | next
  /-- The next line is added to this one. -/
  | nextMore
  | print
  /-- The first line of several is printed. -/
  | printFirst
  /-- A file is printed after the line. -/
  | read (path : String)
  /-- A line of a file is printed after the line. -/
  | readLine (path : String)
  /-- The line is written to a file. -/
  | write (path : String)
  /-- The first line of several is written to a file. -/
  | writeFirst (path : String)
  /-- Matches are replaced. -/
  | substitute (s : Substitution)
  | letters (table : List (Char × Char))
  | fileName
  | empty
  deriving Repr

/-- A command. -/
structure Command where
  /-- The line that is meant, or the first one of a row. -/
  first : Option Address
  /-- The last line of a row. -/
  last : Option Ending
  /-- All other lines are meant. -/
  negated : Bool
  /-- The row of lines is open before the first line. -/
  startsOpen : Bool
  op : Op
  deriving Repr

/-! ## Reading -/

/-- What is wrong with a script, and what was not yet read. -/
structure Fault where
  message : String
  /-- What was not read; nothing if the place does not matter. -/
  rest : Option (List Char)

/-- Something is wrong at a place. -/
def fault {α : Type} (message : String) (rest : List Char) : Except Fault α :=
  .error ⟨message, some rest⟩

/-- How scripts are read. -/
structure Setting where
  /-- Expressions are extended ones. -/
  extended : Bool
  /-- Letters are read as UTF-8. -/
  wide : Bool

def skipBlanks (s : List Char) : List Char := s.dropWhile isBlank

def digitOf? (base : Nat) (c : Char) : Option Nat :=
  let n := c.toNat
  let d := if isDigitChar c then some (n - 0x30)
    else if 'a' ≤ c && c ≤ 'f' then some (n - 0x61 + 10)
    else if 'A' ≤ c && c ≤ 'F' then some (n - 0x41 + 10) else none
  d.bind fun d => if d < base then some d else none

/-- The octet that digits of a base write, at most some number of them, and what
    follows. -/
def octetDigits (base most : Nat) (s : List Char) : Option (Char × List Char) :=
  let ds := (s.take most).takeWhile fun c => (digitOf? base c).isSome
  if ds.isEmpty then none
  else
    let n := ds.foldl (fun n c => base * n + (digitOf? base c).getD 0) 0
    some (Char.ofNat (n % 256), s.drop ds.length)

/-- The character that an escape writes, after its backslash, whether it was written
    by its number, and what follows. -/
def escapedChar (s : List Char) : Option (Char × Bool × List Char) :=
  let code := fun (n : Nat) (rest : List Char) => some (Char.ofNat n, false, rest)
  let numbered := fun (found : Option (Char × List Char)) => found.map fun (c, rest) => (c, true, rest)
  match s with
  | 'a' :: rest => code 7 rest
  | 'f' :: rest => code 12 rest
  | 'n' :: rest => code 10 rest
  | 'r' :: rest => code 13 rest
  | 't' :: rest => code 9 rest
  | 'v' :: rest => code 11 rest
  | 'c' :: c :: rest => some (Char.ofNat ((toCapital c).toNat ^^^ 0x40), true, rest)
  | 'd' :: rest => numbered (octetDigits 10 3 rest)
  | 'o' :: rest => numbered (octetDigits 8 3 rest)
  | 'x' :: rest => numbered (octetDigits 16 2 rest)
  | _ => none

/-- An expression with its escapes put in place, as far as they are not its own. -/
def plainExpression : Nat → List Char → List Char
  | 0, s => s
  | fuel + 1, s =>
    match s with
    | [] => []
    | ['\\'] => ['\\']
    | '\\' :: c :: rest =>
      match if c = 'n' then none else escapedChar (c :: rest) with
      | some (d, _, after) =>
        (if d = '\\' then ['\\', '\\'] else [d]) ++ plainExpression fuel after
      | none => '\\' :: c :: plainExpression fuel rest
    | c :: rest => c :: plainExpression fuel rest

/-- The end of a set in an expression: the letters up to it, the last one first, and
    what follows; `fuel` bounds the letters. -/
def passSet (fuel : Nat) (out s : List Char) : Option (List Char × List Char) :=
  let (out, s) := match s with
    | '^' :: rest => ('^' :: out, rest)
    | s => (out, s)
  let (out, s) := match s with
    | ']' :: rest => (']' :: out, rest)
    | s => (out, s)
  go fuel out s
where
  /-- Passes one member after another. -/
  go : Nat → List Char → List Char → Option (List Char × List Char)
    | 0, _, _ => none
    | fuel + 1, out, s =>
      match s with
      | [] => none
      | '\n' :: _ => none
      | ']' :: rest => some (']' :: out, rest)
      | '\\' :: 'n' :: rest => go fuel ('\n' :: out) rest
      | '[' :: m :: rest =>
        if m = ':' ∨ m = '.' ∨ m = '=' then
          match Regex.bracketName m [] rest with
          | some (name, after) => go fuel ([']', m] ++ name.reverse ++ [m, '['] ++ out) after
          | none => go fuel ('[' :: out) (m :: rest)
        else go fuel ('[' :: out) (m :: rest)
      | c :: rest => go fuel (c :: out) rest

/-- A text up to a mark that stands in it only after a backslash, and what follows;
    `out` is what was read, the last character first, and `fuel` bounds the
    characters.  Without such a mark, what was left where the reading stopped. -/
def toMark (mark : Char) (isExpression : Bool) : Nat → List Char → List Char →
    Except (List Char) (List Char × List Char)
  | 0, _, s => .error s
  | fuel + 1, out, s =>
    match s with
    | [] => .error []
    | '\\' :: [] => .error []
    | '\n' :: rest => if mark = '\n' then .ok (out.reverse, rest) else .error s
    | c :: rest =>
      if c = mark then .ok (out.reverse, rest)
      else if c = '\\' then
        match rest with
        | [] => .error []
        | d :: after =>
          if d = mark then
            let kept := if !isExpression && d = '&' then [d, '\\'] else [d]
            toMark mark isExpression fuel (kept ++ out) after
          else if d = 'n' && isExpression then toMark mark isExpression fuel ('\n' :: out) after
          else if d = '\n' then
            toMark mark isExpression fuel ((if isExpression then [d] else [d, '\\']) ++ out) after
          else toMark mark isExpression fuel (d :: '\\' :: out) after
      else if c = '[' && isExpression then
        match passSet (rest.length + 1) (c :: out) rest with
        | some (out, after) => toMark mark isExpression fuel out after
        | none => .error []
      else toMark mark isExpression fuel (c :: out) rest

/-- The expression that a text writes; `groups` is how many parts are referred to. -/
def readExpression (setting : Setting) (folds hasLines : Bool) (s rest : List Char) :
    Except Fault Expression :=
  if s.isEmpty then
    if folds || hasLines then fault "cannot specify modifiers on empty regexp" rest
    else .ok ⟨none, false, false⟩
  else
    let dialect := if setting.extended then Regex.Dialect.extendedEdit else .basicEdit
    match Regex.read dialect (Regex.toLetters setting.wide (plainExpression (s.length + 1) s)) with
    | .ok r => .ok ⟨some r, folds, hasLines⟩
    | .error f => fault f.wording rest

/-- The flags behind the expression of an address, and what follows. -/
def addressFlags : Nat → Bool → Bool → List Char → Bool × Bool × List Char
  | 0, folds, hasLines, s => (folds, hasLines, s)
  | fuel + 1, folds, hasLines, s =>
    match skipBlanks s with
    | 'I' :: rest => addressFlags fuel true hasLines rest
    | 'M' :: rest => addressFlags fuel folds true rest
    | rest => (folds, hasLines, rest)

def readNumber (s : List Char) : Nat × List Char :=
  let ds := s.takeWhile isDigitChar
  (digitsValue ds, s.drop ds.length)

def readAddress (setting : Setting) (s : List Char) : Except Fault ((Option Ending) × List Char) :=
  let found := fun (mark : Char) (rest : List Char) =>
    match toMark mark true (rest.length + 1) [] rest with
    | .error left => fault "unterminated address regex" left
    | .ok (text, rest) => do
      let (folds, hasLines, rest) := addressFlags (rest.length + 1) false false rest
      let e ← readExpression setting folds hasLines text rest
      return (some (.at (.found e)), rest)
  match s with
  | '/' :: rest => found '/' rest
  | '\\' :: mark :: rest => found mark rest
  | ['\\'] => fault "unterminated address regex" []
  | '$' :: rest => .ok (some (.at .last), rest)
  | '+' :: rest =>
    let (n, rest) := readNumber (skipBlanks rest)
    .ok (some (.plus n), rest)
  | '~' :: rest =>
    let (n, rest) := readNumber (skipBlanks rest)
    .ok (some (.multiple n), rest)
  | c :: _ =>
    if isDigitChar c then
      let (n, rest) := readNumber s
      match skipBlanks rest with
      | '~' :: rest =>
        let (d, rest) := readNumber (skipBlanks rest)
        .ok (some (.at (if d = 0 then .line n else .step n d)), rest)
      | _ => .ok (some (.at (.line n)), rest)
    else .ok (none, s)
  | [] => .ok (none, s)

/-- The text with its escapes put in place; a backslash before any other character
    is dropped. -/
def plainText : Nat → List Char → List Char
  | 0, _ => []
  | fuel + 1, s =>
    match s with
    | [] => []
    | '\\' :: rest =>
      match escapedChar rest with
      | some (c, _, after) => c :: plainText fuel after
      | none =>
        match rest with
        | c :: after => c :: plainText fuel after
        | [] => []
    | c :: rest => c :: plainText fuel rest

/-- The text of a command up to the end of its line; a line feed after a backslash
    belongs to it.  The second part tells whether the script ended after a
    backslash, so that the text goes on in the next one. -/
def textLines : List Char → List Char × Bool × List Char
  | [] => ([], false, [])
  | ['\\'] => ([], true, [])
  | '\\' :: c :: rest =>
    let (text, goesOn, after) := textLines rest
    ('\\' :: c :: text, goesOn, after)
  | '\n' :: rest => ([], false, rest)
  | c :: rest =>
    let (text, goesOn, after) := textLines rest
    (c :: text, goesOn, after)

/-- The parts of what takes the place of a match; `plain` is the plain text before,
    the last character first. -/
def readParts : Nat → List Char → List Char → List Part
  | 0, _, _ => []
  | fuel + 1, plain, s =>
    let before := if plain.isEmpty then [] else [Part.text plain.reverse]
    match s with
    | [] => before
    | '&' :: rest => before ++ .group 0 :: readParts fuel [] rest
    | '\\' :: c :: rest =>
      let casing := fun (change : CaseChange) => before ++ .casing change :: readParts fuel [] rest
      if isDigitChar c then before ++ .group (c.toNat - 0x30) :: readParts fuel [] rest
      else if c = 'U' then casing .upper
      else if c = 'L' then casing .lower
      else if c = 'u' then casing .upperOne
      else if c = 'l' then casing .lowerOne
      else if c = 'E' then casing .none
      else match escapedChar (c :: rest) with
        | some (d, _, after) => readParts fuel (d :: plain) after
        | none => readParts fuel (c :: plain) rest
    | c :: rest => readParts fuel (c :: plain) rest

def greatestGroup (parts : List Part) : Nat :=
  parts.foldl (fun n p => match p with
    | .group k => max n k
    | _ => n) 0

def endOfCommand (s : List Char) : Except Fault (List Char) :=
  match skipBlanks s with
  | [] => .ok []
  | c :: rest =>
    if c = '\x7d' || c = '#' then .ok (c :: rest)
    else if c = '\n' || c = ';' then .ok rest
    else fault "extra characters after command" rest

/-- The name of a file up to the end of the line, and what follows. -/
def readFileName (s : List Char) : Except Fault (String × List Char) :=
  let s := skipBlanks s
  let name := s.takeWhile (· != '\n')
  if name.isEmpty then fault "missing filename in r/R/w/W commands" s
  else .ok (String.ofList name, (s.drop name.length).drop 1)

def readLabel (s : List Char) : String × List Char :=
  let s := skipBlanks s
  let name := s.takeWhile fun c => !isSpace c && c != ';' && c != '\x7d'
  (String.ofList name, s.drop name.length)

/-- The flags of a substitution. -/
structure Flags where
  all : Bool
  prints : Bool
  /-- The first match that is replaced. -/
  first : Option Nat
  /-- Small and large letters are the same. -/
  folds : Bool
  /-- Lines inside the text have starts and ends of their own. -/
  hasLines : Bool
  /-- The result is written to a file. -/
  file : Option String

/-- Reads the flags of a substitution, and what follows; `fuel` bounds them. -/
def readFlags : Nat → Flags → List Char → Except Fault (Flags × List Char)
  | 0, f, s => .ok (f, s)
  | fuel + 1, f, s =>
    match s with
    | [] => .ok (f, [])
    | c :: rest =>
      if c = 'g' then
        if f.all then fault "multiple `g' options to `s' command" rest
        else readFlags fuel { f with all := true } rest
      else if c = 'p' then
        if f.prints then fault "multiple `p' options to `s' command" rest
        else readFlags fuel { f with prints := true } rest
      else if c = 'i' || c = 'I' then readFlags fuel { f with folds := true } rest
      else if c = 'm' || c = 'M' then readFlags fuel { f with hasLines := true } rest
      else if c = 'w' then do
        let (name, rest) ← readFileName rest
        return ({ f with file := some name }, rest)
      else if isDigitChar c then
        if f.first.isSome then fault "multiple number options to `s' command" rest
        else
          let (n, rest) := readNumber s
          if n = 0 then fault "number option to `s' command may not be zero" rest
          else readFlags fuel { f with first := some n } rest
      else if c = ' ' || c = '\t' then readFlags fuel f rest
      else if c = '\x7d' || c = '#' then .ok (f, s)
      else if c = '\n' || c = ';' then .ok (f, rest)
      else fault "unknown option to `s'" rest

/-- A substitution after its letter, and what follows. -/
def readSubstitution (setting : Setting) (s : List Char) : Except Fault (Op × List Char) := do
  let unended := fun {α : Type} (left : List Char) =>
    (fault "unterminated `s' command" left : Except Fault α)
  match s with
  | [] => unended []
  | mark :: rest =>
    if mark = '\n' then unended rest
    let (expression, rest) ← match toMark mark true (rest.length + 1) [] rest with
      | .ok found => pure found
      | .error left => unended left
    let (replacement, rest) ← match toMark mark false (rest.length + 1) [] rest with
      | .ok found => pure found
      | .error left => unended left
    let (flags, rest) ← readFlags (rest.length + 1) ⟨false, false, none, false, false, none⟩ rest
    let e ← readExpression setting flags.folds flags.hasLines expression rest
    let parts := readParts (replacement.length + 1) [] replacement
    let most := greatestGroup parts
    if e.regex.any (·.groupCount < most) then
      fault ("invalid reference \\" ++ Number.natText most ++ " on `s' command's RHS") rest
    return (.substitute ⟨e, parts, flags.first.getD 1, flags.all, flags.prints, flags.file⟩, rest)

/-- The letters of a table, with their escapes put in place. -/
def tableLetters : Nat → List Char → List Char
  | 0, _ => []
  | fuel + 1, s =>
    match s with
    | [] => []
    | '\\' :: rest =>
      match escapedChar rest, rest with
      | some (c, _, after), _ => c :: tableLetters fuel after
      | none, c :: after => c :: tableLetters fuel after
      | none, [] => ['\\']
    | c :: rest => c :: tableLetters fuel rest

/-- A table of letters after its command, and what follows. -/
def readTable (setting : Setting) (s : List Char) : Except Fault (Op × List Char) := do
  let unended := fun {α : Type} (left : List Char) =>
    (fault "unterminated `y' command" left : Except Fault α)
  match s with
  | [] => unended []
  | mark :: rest =>
    let (source, rest) ← match toMark mark false (rest.length + 1) [] rest with
      | .ok found => pure found
      | .error left => unended left
    let (target, rest) ← match toMark mark false (rest.length + 1) [] rest with
      | .ok found => pure found
      | .error left => unended left
    let letters := fun (s : List Char) =>
      Regex.toLetters setting.wide (tableLetters (s.length + 1) s)
    let a := letters source
    let b := letters target
    if a.length != b.length then fault "strings for `y' command are different lengths" rest
    let rest ← endOfCommand rest
    return (.letters (a.zip b), rest)

/-- The text of a command after its letter: whether it is complete, and what
    follows. -/
def readText (s : List Char) : Except Fault ((List Char × Bool) × List Char) :=
  match skipBlanks s with
  | [] => fault "expected \\ after `a', `c' or `i'" []
  | '\\' :: '\n' :: rest =>
    let (text, goesOn, after) := textLines rest
    .ok ((plainText (text.length + 1) text ++ (if goesOn && text.isEmpty then [] else ['\n']), goesOn), after)
  | ['\\'] => .ok (([], true), [])
  | '\\' :: '\\' :: rest =>
    let (text, goesOn, after) := textLines ('\\' :: rest)
    .ok ((plainText (text.length + 1) text ++ ['\n'], goesOn), after)
  | '\\' :: c :: rest =>
    let (text, goesOn, after) := textLines rest
    .ok ((c :: plainText (text.length + 1) text ++ ['\n'], goesOn), after)
  | s =>
    let (text, goesOn, after) := textLines s
    .ok ((plainText (text.length + 1) text ++ ['\n'], goesOn), after)

/-- Where the reading of a script stands. -/
structure Reading where
  commands : List Command
  /-- The numbers of the commands that open the blocks that are not closed. -/
  blocks : List Nat
  /-- The last command has a text that goes on in the next script. -/
  openText : Bool

def Reading.add (r : Reading) (c : Command) : Reading := { r with commands := c :: r.commands }

/-- The command of a number is a block that ends before the next one. -/
def Reading.close (r : Reading) (n : Nat) : Reading :=
  let count := r.commands.length
  { r with
    commands := r.commands.mapIdx fun i c =>
      if count - 1 - i = n then { c with op := .block count } else c }

/-- A number that may follow a command, and what follows it. -/
def optionalNumber (s : List Char) : Except Fault (Option Nat × List Char) :=
  match skipBlanks s with
  | c :: rest =>
    if isDigitChar c then
      let (n, after) := readNumber (c :: rest)
      (endOfCommand after).map (some n, ·)
    else (endOfCommand (c :: rest)).map (none, ·)
  | [] => .ok (none, [])

/-- The commands that are letters alone. -/
def plainOp? (c : Char) : Option Op :=
  [('=', Op.number), ('d', .delete), ('D', .deleteFirst), ('F', .fileName), ('g', .get),
    ('G', .getMore), ('h', .hold), ('H', .holdMore), ('n', .next), ('N', .nextMore), ('p', .print),
    ('P', .printFirst), ('z', .empty), ('x', .exchange)].lookup c

/-- The command whose letter was read, and what follows; nothing for those that are
    no commands of their own. -/
def readOp (setting : Setting) (hasRow : Bool) (c : Char) (s : List Char) :
    Except Fault ((Op × Bool) × List Char) := do
  let done := fun (op : Op) (rest : List Char) => (pure ((op, false), rest) : Except Fault ((Op × Bool) × List Char))
  match plainOp? c with
  | some op => done op (← endOfCommand s)
  | none =>
    if c = 'a' || c = 'i' || c = 'c' then
      let ((text, goesOn), rest) ← readText s
      let op := if c = 'a' then .append text else if c = 'i' then .insert text else .change text
      return ((op, goesOn), rest)
    else if c = 'b' || c = 't' || c = 'T' then
      let (label, rest) := readLabel s
      done (if c = 'b' then .branch label else if c = 't' then .branchIf label
        else .branchUnless label) rest
    else if c = 'q' || c = 'Q' then
      if hasRow then fault "command only uses one address" s
      let (n, rest) ← optionalNumber s
      done (if c = 'q' then .quit (n.getD 0) else .quitSilently (n.getD 0)) rest
    else if c = 'l' then
      let (n, rest) ← optionalNumber s
      done (.list n) rest
    else if c = 'r' || c = 'R' || c = 'w' || c = 'W' then
      let (path, rest) ← readFileName s
      done (if c = 'r' then .read path else if c = 'R' then .readLine path
        else if c = 'w' then .write path else .writeFirst path) rest
    else if c = 's' then
      let (op, rest) ← readSubstitution setting s
      done op rest
    else if c = 'y' then
      let (op, rest) ← readTable setting s
      done op rest
    else fault ("unknown command: `" ++ String.ofList [c] ++ "'") s

/-- Reads a script command by command; `fuel` bounds the characters. -/
def readCommands (setting : Setting) : Nat → Reading → List Char → Except Fault Reading
  | 0, r, _ => .ok r
  | fuel + 1, r, s =>
    match s.dropWhile fun c => isSpace c || c == ';' with
    | [] => .ok r
    | s => do
      let (first?, s) ← readAddress setting s
      let (first, last, s) ← match first? with
        | none => pure (none, none, s)
        | some (.at a) =>
          match skipBlanks s with
          | ',' :: rest =>
            let rest := skipBlanks rest
            let (last?, after) ← readAddress setting rest
            match last? with
            | none => fault "unexpected `,'" (rest.drop 1)
            | some e => pure (some a, some e, skipBlanks after)
          | s => pure (some a, none, s)
        | some _ => fault "invalid usage of +N or ~N as first address" s
      let startsOpen := match first, last with
        | some (.line 0), some (.at (.found _)) => true
        | _, _ => false
      let isZero := match first with
        | some (.line 0) => true
        | _ => false
      if isZero && !startsOpen then fault "invalid usage of line address 0" (s.drop 1)
      let (negated, s) ← match s with
        | '!' :: rest =>
          match skipBlanks rest with
          | '!' :: rest => fault "multiple `!'s" rest
          | rest => pure (true, rest)
        | s => pure (false, s)
      let command := fun (op : Op) => (⟨first, last, negated, startsOpen, op⟩ : Command)
      match s with
      | [] => fault "missing command" []
      | '#' :: rest =>
        if first.isSome then fault "comments don't accept any addresses" rest
        readCommands setting fuel r (rest.dropWhile (· != '\n'))
      | '\x7b' :: rest =>
        let n := r.commands.length
        readCommands setting fuel { r.add (command (.block 0)) with blocks := n :: r.blocks } rest
      | '\x7d' :: rest =>
        match r.blocks with
        | [] => fault "unexpected `\x7d'" rest
        | n :: others =>
          if first.isSome then fault "\x7d doesn't want any addresses" rest
          let rest ← endOfCommand rest
          readCommands setting fuel { r.close n with blocks := others } rest
      | ':' :: rest =>
        if first.isSome then fault ": doesn't want any addresses" rest
        let (label, after) := readLabel rest
        if label.isEmpty then fault "\":\" lacks a label" rest
        readCommands setting fuel (r.add (command (.label label))) after
      | 'v' :: rest =>
        let (label, after) := readLabel rest
        if label.toList.head?.any fun c => '5' ≤ c && c ≤ '9' then
          fault "expected newer version of sed" after
        readCommands setting fuel r after
      | c :: rest =>
        let ((op, goesOn), rest) ← readOp setting last.isSome c rest
        readCommands setting fuel { r.add (command op) with openText := goesOn } rest

def Reading.addText (r : Reading) (text : List Char) (goesOn : Bool) : Reading :=
  match r.commands with
  | c :: rest =>
    let op := match c.op with
      | .append t => .append (t ++ text)
      | .insert t => .insert (t ++ text)
      | .change t => .change (t ++ text)
      | op => op
    { r with commands := { c with op := op } :: rest, openText := goesOn }
  | [] => r

def readScript (setting : Setting) (r : Reading) (s : List Char) : Except Fault Reading :=
  if r.openText then
    let (text, goesOn, rest) := textLines s
    let r := r.addText (plainText (text.length + 1) text ++ ['\n']) goesOn
    readCommands setting (rest.length + 1) r rest
  else readCommands setting (s.length + 1) r s

end Sed

end SourceCheck.Utility
