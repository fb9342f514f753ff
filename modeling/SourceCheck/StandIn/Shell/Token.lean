import SourceCheck.StandIn.Shell.World

/-! # The tokens of a script

    A script is read from left to right as tokens: words, marks that separate
    commands, and redirections.  A word is read as a flat row of atoms, in which
    the uses of variables and the arithmetic expressions are opened and closed;
    the atoms are then put together as parts.
-/

namespace SourceCheck.Shell

/-! ## Tokens -/

inductive Token where
  | ending
  | newline
  | mark (s : String)
  | redirect
  | word
  | keyword (s : String)
  deriving DecidableEq, Repr, Inhabited

def keywords : List String := [
  "!", "case", "do", "done", "elif", "else", "esac", "fi", "for", "if", "in", "then", "until",
  "while", "\x7b", "\x7d"]

/-- The words of the language that end a row of commands. -/
def closers : List String := ["do", "done", "elif", "else", "esac", "fi", "then", "\x7d"]

def Token.shown : Token → String
  | .ending => "end of file"
  | .newline => "newline"
  | .mark s => "\"" ++ s ++ "\""
  | .redirect => "redirection"
  | .word => "word"
  | .keyword s => "\"" ++ s ++ "\""

def Token.endsRow : Token → Bool
  | .ending => true
  | .mark s => s == ")" || s == ";;"
  | .keyword s => closers.contains s
  | _ => false

def isMeta (c : Char) : Bool :=
  c == ' ' || c == '\t' || c == '\n' || c == ';' || c == '&' || c == '|' || c == '<'
    || c == '>' || c == '(' || c == ')'

/-! ## Atoms -/

/-- A piece of a word as it is read. -/
inductive Atom where
  | part (p : Part)
  /-- The use of a variable with a word starts here. -/
  | openVariable (name : String) (use : VariableUse) (colon : Bool)
  /-- An arithmetic expression starts here. -/
  | openArithmetic
  /-- What was opened last ends here. -/
  | close
  deriving Inhabited

/-- What was opened and is not yet closed, with the parts before it, the last one
    first. -/
abbrev OpenParts := List (Atom × List Part)

def closePart (opened : Atom) (inner : List Part) : Part :=
  match opened with
  | .openVariable name use colon => .variable name use colon inner.reverse
  | _ => .arithmetic inner.reverse

def putAtom (state : OpenParts × List Part) (a : Atom) : OpenParts × List Part :=
  let (opened, parts) := state
  match a, opened with
  | .part p, _ => (opened, p :: parts)
  | .close, (start, before) :: opened => (opened, closePart start parts :: before)
  | .close, [] => ([], parts)
  | start, _ => ((start, parts) :: opened, [])

def partsOf (atoms : List Atom) : List Part := (atoms.foldl putAtom ([], [])).2.reverse

/-! ## Where a word is read -/

/-- Which characters have a meaning. -/
inductive Quoting where
  | plain
  | double
  | single
  | arithmetic
  deriving DecidableEq, Repr, Inhabited

/-- Where a word is read: a part of it with the same rules for quotes. -/
structure Frame where
  quoting : Quoting
  /-- Double quotes are open inside braces. -/
  innerQuotes : Bool
  isBraced : Bool
  /-- A backslash keeps its meaning only before few characters. -/
  isDouble : Bool
  braces : Nat
  /-- How many of them were opened in double quotes. -/
  doubleBraces : Nat
  parentheses : Nat
  deriving Repr, Inhabited

def Frame.start (quoting : Quoting) (isBraced isDouble : Bool) : Frame :=
  ⟨quoting, false, isBraced, isDouble, 0, 0, 0⟩

/-- A redirection as far as its mark tells. -/
inductive RedirectMark where
  | file (how : Opening)
  | copy
  /-- A text follows; tabs at the start of its lines may be dropped. -/
  | document (dropsTabs : Bool)
  deriving DecidableEq, Repr, Inhabited

/-- A text in the script that was asked for and not yet read. -/
structure Waiting where
  number : Nat
  mark : List Char
  dropsTabs : Bool
  /-- Nothing in it is put in place. -/
  isQuoted : Bool
  deriving Repr

/-- A text that stands for a word, as far as it is not yet read. -/
structure Standing where
  name : String
  /-- How many characters are left after it. -/
  after : Nat
  endsBlank : Bool
  deriving Repr

/-- A place where the script breaks the rules. -/
structure SyntaxFault where
  line : Nat
  message : String
  deriving Repr

/-- What a reader of scripts holds. -/
structure Reader where
  rest : List Char
  left : Nat
  line : Nat
  aliases : List (String × String)
  standing : List Standing
  token : Token
  /-- The last token is to be read again. -/
  isHeld : Bool
  word : List Part
  isQuoted : Bool
  descriptor : Nat
  mark : RedirectMark
  /-- Texts that were asked for and are not yet read. -/
  waiting : List Waiting
  documents : List (Nat × List Part)
  nextDocument : Nat
  deriving Inhabited

def Reader.ofText (s : List Char) (line : Nat) : Reader :=
  ⟨s, s.length, line, [], [], .newline, false, [], false, 0, .copy, [], [], 0⟩

/-- What reads a part of a script. -/
abbrev Reading := StateT Reader (Except SyntaxFault)

/-- The script breaks the rules here. -/
def refuse {α : Type} (message : String) : Reading α := do
  throw ⟨(← get).line, "Syntax error: " ++ message⟩

/-- The last token must not stand here. -/
def unexpected {α : Type} (expected : Option Token) : Reading α := do
  let r ← get
  refuse (r.token.shown ++ " unexpected"
    ++ match expected with
      | some t => " (expecting " ++ t.shown ++ ")"
      | none => "")

/-- The last token will be read again. -/
def hold : Reading Unit := modify ({ · with isHeld := true })

/-! ## Characters -/

def Reader.drop (r : Reader) (n : Nat) : Reader :=
  { r with rest := r.rest.drop n, left := r.left - n }

/-- The text without line feeds after backslashes at its start. -/
def skipJoins (left line : Nat) : List Char → List Char × Nat × Nat
  | '\\' :: '\n' :: rest => skipJoins (left - 2) (line + 1) rest
  | rest => (rest, left, line)

/-- The text without line feeds after backslashes at its start. -/
def Reader.skipJoins (r : Reader) : Reader :=
  let (rest, left, line) := Shell.skipJoins r.left r.line r.rest
  { r with rest := rest, left := left, line := line }

def skipBlanksIn (left line : Nat) : List Char → List Char × Nat × Nat
  | ' ' :: rest => skipBlanksIn (left - 1) line rest
  | '\t' :: rest => skipBlanksIn (left - 1) line rest
  | '\\' :: '\n' :: rest => skipBlanksIn (left - 2) (line + 1) rest
  | '#' :: rest =>
    let after := rest.dropWhile (· != '\n')
    (after, after.length, line)
  | rest => (rest, left, line)

def Reader.skipBlanks (r : Reader) : Reader :=
  let (rest, left, line) := skipBlanksIn r.left r.line r.rest
  { r with rest := rest, left := left, line := line }

/-- The next character, with line feeds after backslashes left out. -/
def look : Reading (Option Char) := do
  let r := (← get).skipJoins
  set r
  return r.rest.head?

def advance : Reading Unit := modify (·.drop 1)

def next : Reading (Option Char) := do
  let c ← look
  advance
  return c

/-- The next character, which is read; a backslash before a line feed counts. -/
def nextRaw : Reading (Option Char) := do
  let r ← get
  set (r.drop 1)
  return r.rest.head?

def countLine : Reading Unit := modify fun r => { r with line := r.line + 1 }

/-- Characters of a class at the start of the text, which are read; `fuel` bounds
    their number. -/
def nextWhile (p : Char → Bool) : Nat → Reading (List Char)
  | 0 => return []
  | fuel + 1 => do
    match ← look with
    | some c =>
      if p c then
        advance
        return c :: (← nextWhile p fuel)
      else return []
    | none => return []

/-! ## Variables -/

def isSpecialVariable (c : Char) : Bool :=
  isDigitChar c || c == '@' || c == '*' || c == '#' || c == '?' || c == '-' || c == '$' || c == '!'

def isNameStart (c : Char) : Bool := isNameChar c && !isDigitChar c

def useOfMark : Char → Option VariableUse
  | '}' => some .value
  | '-' => some .orElse
  | '+' => some .ifSet
  | '?' => some .orFail
  | '=' => some .orAssign
  | _ => none

/-- The use of a variable at the start of a text. -/
structure VariableMark where
  name : String
  use : VariableUse
  /-- An empty value counts as none. -/
  colon : Bool
  /-- A word and a closing brace follow. -/
  isOpen : Bool
  deriving Repr

def readUse (name : String) : Reading VariableMark := do
  match ← next with
  | some ':' =>
    match (← next).bind useOfMark with
    | some use => return ⟨name, use, true, true⟩
    | none => return ⟨name, .unknown, true, true⟩
  | some '%' =>
    if (← look) = some '%' then
      advance
      return ⟨name, .dropLongEnd, false, true⟩
    else return ⟨name, .dropShortEnd, false, true⟩
  | some '#' =>
    if (← look) = some '#' then
      advance
      return ⟨name, .dropLongStart, false, true⟩
    else return ⟨name, .dropShortStart, false, true⟩
  | c =>
    match c.bind useOfMark with
    | some .value => return ⟨name, .value, false, false⟩
    | some use => return ⟨name, use, false, true⟩
    | none => return ⟨name, .unknown, false, true⟩

/-- The length of a variable is asked for; its braces must close after its name. -/
def readSizeEnd (name : String) : Reading VariableMark := do
  return ⟨name, if (← look) = some '\x7d' then .size else .unknown, false, true⟩

def readLongName (first : Char) : Reading String := do
  let r ← get
  return String.ofList (← nextWhile (if isDigitChar first then isDigitChar else isNameChar) r.left)

def readBraced : Reading VariableMark := do
  match ← look with
  | none => return ⟨"", .unknown, false, true⟩
  | some c =>
    if isNameChar c then readUse (← readLongName c)
    else if c = '\x7d' then return ⟨"", .unknown, false, true⟩
    else
      advance
      let after ← look
      if c = '#' then
        match after with
        | none => readUse "#"
        | some d =>
          if isNameChar d then readSizeEnd (← readLongName d)
          else
            let r ← get
            advance
            let further ← look
            if d != '\x7d' && further == some '\x7d' then
              if isSpecialVariable d then return ⟨String.ofList [d], .size, false, true⟩
              else return ⟨"", .unknown, false, true⟩
            else
              set r
              readUse "#"
      else if isSpecialVariable c then readUse (String.ofList [c])
      else return ⟨"", .unknown, false, true⟩

/-! ## Backquotes -/

/-- The script between backquotes, with its escapes undone; in double quotes these
    are escaped as well.  `fuel` bounds its length. -/
def readBackquoted (inQuotes : Bool) : Nat → List Char → Reading (List Char)
  | 0, out => return out.reverse
  | fuel + 1, out => do
    match ← next with
    | none => refuse "EOF in backquote substitution"
    | some '\x60' => return out.reverse
    | some '\\' =>
      match ← nextRaw with
      | none => refuse "EOF in backquote substitution"
      | some c =>
        if c = '\\' ∨ c = '\x60' ∨ c = '$' ∨ (inQuotes ∧ c = '"') then
          readBackquoted inQuotes fuel (c :: out)
        else readBackquoted inQuotes fuel (c :: '\\' :: out)
    | some '\n' =>
      countLine
      readBackquoted inQuotes fuel ('\n' :: out)
    | some c => readBackquoted inQuotes fuel (c :: out)

/-! ## Words -/

structure WordReading where
  atoms : List Atom
  frame : Frame
  /-- Where the parts around it are read, the innermost first. -/
  outer : List Frame
  isQuoted : Bool
  /-- The word is a text of several lines with a mark at its end. -/
  document : Option Waiting
  isMark : Bool
  deriving Inhabited

def WordReading.start (quoting : Quoting) (document : Option Waiting) (isMark : Bool) :
    WordReading :=
  ⟨[], .start quoting false (quoting == .double), [], false, document, isMark⟩

namespace WordReading

def put (a : Atom) (r : WordReading) : WordReading := { r with atoms := a :: r.atoms }

def putChar (c : Char) (isQuoted : Bool) (r : WordReading) : WordReading :=
  r.put (.part (.char c isQuoted))

/-- Quotes are read; they leave a trace only in words of a line. -/
def putQuotes (r : WordReading) : WordReading :=
  if r.document.isSome then r else r.put (.part .quotes)

/-- Double quotes are opened or closed inside braces. -/
def toggled (f : Frame) : Frame := if f.braces = 0 then f else { f with innerQuotes := !f.innerQuotes }

def openQuotes (quoting : Quoting) (r : WordReading) : WordReading :=
  let f := { r.frame with quoting := quoting, isDouble := r.frame.isDouble || quoting == Quoting.double }
  ({ r with frame := if quoting == Quoting.double then toggled f else f }).putQuotes

/-- Quotes are closed; in a text of several lines they are characters like
    others. -/
def closeQuotes (c : Char) (r : WordReading) : WordReading :=
  if r.document.isSome && r.frame.braces == 0 then r.putChar c true
  else
    let f := if r.frame.doubleBraces = 0 then
        { r.frame with quoting := .plain, isDouble := false }
      else r.frame
    ({ r with frame := if c == '"' then toggled f else f, isQuoted := true }).putQuotes

def leave (r : WordReading) : WordReading :=
  match r.outer with
  | f :: outer => { r with frame := f, outer := outer }
  | [] => r

def closeBrace (r : WordReading) : WordReading :=
  let f := r.frame
  if !f.innerQuotes && 0 < f.braces then
    let r := r.put .close
    if f.braces == 1 && f.isBraced then r.leave
    else { r with frame := { f with braces := f.braces - 1, doubleBraces := f.doubleBraces - 1 } }
  else r.putChar '\x7d' (f.quoting != .plain)

def inQuotes (r : WordReading) : Bool := r.frame.quoting != .plain

def keepsBackslash (c : Char) (r : WordReading) : Bool :=
  r.frame.isDouble && c != '\\' && c != '\x60' && c != '$'
    && (c != '"' || (r.document.isSome && r.frame.braces == 0))
    && (c != '\x7d' || r.frame.braces == 0)

def putEscaped (c : Option Char) (r : WordReading) : WordReading :=
  match c with
  | none => r.putChar '\\' true
  | some c =>
    let r := if r.keepsBackslash c then r.putChar '\\' true else r
    { r.putChar c true with isQuoted := true }

def putVariable (m : VariableMark) (r : WordReading) : WordReading :=
  if !m.isOpen then r.put (.part (.variable m.name m.use m.colon []))
  else
    let f := r.frame
    let isTrim := m.use == .dropShortEnd || m.use == .dropLongEnd || m.use == .dropShortStart
      || m.use == .dropLongStart
    let quoting := if isTrim then .plain else if f.quoting == .arithmetic then .double else f.quoting
    let (f, outer) := if quoting != f.quoting || f.innerQuotes then
        (Frame.start quoting true (quoting != .plain), f :: r.outer)
      else (f, r.outer)
    let f := { f with
      braces := f.braces + 1
      doubleBraces := f.doubleBraces + (if f.isDouble then 1 else 0) }
    { r.put (.openVariable m.name m.use m.colon) with frame := f, outer := outer }

def openArithmetic (r : WordReading) : WordReading :=
  { r.put .openArithmetic with
    frame := .start .arithmetic false true
    outer := r.frame :: r.outer }

def plainText? (r : WordReading) : Option (List Char) :=
  r.atoms.reverse.mapM fun
    | .part (.char c false) => some c
    | _ => none

end WordReading

/-- The line at the end of a text of several lines is here; it is read, and so are
    the tabs before any line if they are to be dropped. -/
def readMark (d : Waiting) : Reading Bool := do
  let r ← get
  let tabs := if d.dropsTabs then (r.rest.takeWhile (· == '\t')).length else 0
  let r := r.drop tabs
  set r
  match d.mark.isPrefixOf? r.rest with
  | some [] =>
    set (r.drop d.mark.length)
    return true
  | some ('\n' :: _) =>
    set (r.drop (d.mark.length + 1))
    countLine
    return true
  | _ => return false

def readRedirectMark (descriptor : Option Nat) : Reading Unit := do
  let put := fun (usual : Nat) (mark : RedirectMark) =>
    modify fun r => { r with descriptor := descriptor.getD usual, mark := mark, token := .redirect }
  match ← next with
  | some '>' =>
    match ← look with
    | some '>' =>
      advance
      put 1 (.file .append)
    | some '|' =>
      advance
      put 1 (.file .overwrite)
    | some '&' =>
      advance
      put 1 .copy
    | _ => put 1 (.file .write)
  | _ =>
    match ← look with
    | some '<' =>
      advance
      if (← look) = some '-' then
        advance
        put 0 (.document true)
      else put 0 (.document false)
    | some '&' =>
      advance
      put 0 .copy
    | some '>' =>
      advance
      put 0 (.file .update)
    | _ => put 0 (.file .read)

end SourceCheck.Shell
