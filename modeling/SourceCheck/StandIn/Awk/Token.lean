import SourceCheck.StandIn.Shell.World

/-! # Tokens of programs that process records

    A line feed is a token, since it can end a statement.  Whether a slash divides or
    opens a regular expression is for the reader of expressions to say.
-/

namespace SourceCheck.Awk

open SourceCheck SourceCheck.Shell

inductive Token where
  | number (digits : List Char)
  | text (s : List Char)
  /-- A name; it may stand directly before an opening parenthesis. -/
  | name (s : String) (isCalled : Bool)
  /-- The name of a function that is always there. -/
  | builtin (s : String)
  | word (s : String)
  | mark (s : String)
  | newline
  | stop
  | unknown (c : Char)
  | unclosed (s : List Char)
  deriving DecidableEq, Repr, Inhabited

/-- The words with a meaning of their own. -/
def keywords : List String := [
  "BEGIN", "END", "function", "if", "else", "while", "for", "do", "break", "continue", "next",
  "nextfile", "exit", "return", "delete", "in", "getline", "print", "printf"]

def builtinNames : List String := [
  "length", "index", "substr", "split", "sub", "gsub", "match", "sprintf", "sin", "cos", "atan2",
  "exp", "log", "sqrt", "int", "rand", "srand", "close", "system", "toupper", "tolower", "fflush",
  "systime", "strftime", "mktime"]

/-- Marks of several characters, the longer ones first, and of one. -/
def marks : List String := [
  "&&", "||", "==", "<=", ">=", "!=", "!~", "++", "--", "+=", "-=", "*=", "/=", "%=", "^=", ">>",
  "\x7b", "\x7d", "(", ")", "[", "]", ";", ",", "+", "-", "*", "/", "%", "^", "!", "<", ">", "=", "?",
  ":", "~", "$", "|"]

def Token.shown : Token → List Char
  | .number ds => ds
  | .text s => s
  | .name s _ | .builtin s | .word s | .mark s => s.toList
  | .newline | .stop => "end of line".toList
  | .unknown c => [c]
  | .unclosed s => s

/-! ## Escapes -/

/-- The value of a digit in a base up to sixteen, or more for other characters. -/
def digitValue (c : Char) : Nat :=
  let n := c.toNat
  if isDigitChar c then n - 0x30
  else if 'a' ≤ c && c ≤ 'f' then n - 0x61 + 10
  else if 'A' ≤ c && c ≤ 'F' then n - 0x41 + 10
  else 16

/-- The character that digits of a base write, at most some number of them, and what
    follows. -/
def numbered (base most : Nat) (s : List Char) : Option (Char × List Char) :=
  let ds := (s.take most).takeWhile fun c => digitValue c < base
  if ds.isEmpty then none
  else
    some (Char.ofNat (ds.foldl (fun n c => base * n + digitValue c) 0 % 256), s.drop ds.length)

/-- The character that stands after a backslash for another one, and what follows. -/
def escaped? (s : List Char) : Option (Char × List Char) :=
  match s with
  | '"' :: rest => some ('"', rest)
  | '\\' :: rest => some ('\\', rest)
  | '/' :: rest => some ('/', rest)
  | 'a' :: rest => some (Char.ofNat 7, rest)
  | 'b' :: rest => some (Char.ofNat 8, rest)
  | 't' :: rest => some ('\t', rest)
  | 'n' :: rest => some ('\n', rest)
  | 'v' :: rest => some (Char.ofNat 11, rest)
  | 'f' :: rest => some (Char.ofNat 12, rest)
  | 'r' :: rest => some ('\r', rest)
  | 'x' :: rest => numbered 16 2 rest
  | s => numbered 8 3 s

/-- A text with its escapes put in place; a backslash that stands for nothing is
    kept.  `fuel` bounds the characters. -/
def unescapeText : Nat → List Char → List Char
  | 0, s => s
  | fuel + 1, s =>
    match s with
    | [] => []
    | '\\' :: rest =>
      match escaped? rest with
      | some (c, after) => c :: unescapeText fuel after
      | none => '\\' :: unescapeText fuel rest
    | c :: rest => c :: unescapeText fuel rest

def unescaped (s : List Char) : List Char := unescapeText s.length s

/-! ## Tokens -/

/-- The inside of a text in quotation marks, and what follows the closing one; a
    backslash at the end of a line joins it with the next one. -/
def quotedText : List Char → Option (List Char × List Char)
  | [] => none
  | '\n' :: _ => none
  | '"' :: rest => some ([], rest)
  | '\\' :: '\n' :: rest => quotedText rest
  | '\\' :: c :: rest => (quotedText rest).map fun (s, after) => ('\\' :: c :: s, after)
  | c :: rest => (quotedText rest).map fun (s, after) => (c :: s, after)

/-- The inside of a regular expression, and what follows the closing slash; inside a
    set a slash is plain. -/
def slashedText (inSet : Bool) : List Char → Option (List Char × List Char)
  | [] => none
  | '\n' :: _ => none
  | '\\' :: '/' :: rest => (slashedText inSet rest).map fun (s, after) => ('/' :: s, after)
  | '\\' :: c :: rest => (slashedText inSet rest).map fun (s, after) => ('\\' :: c :: s, after)
  | '[' :: '^' :: ']' :: rest =>
    if inSet then (slashedText false rest).map fun (s, after) => ('[' :: '^' :: ']' :: s, after)
    else (slashedText true rest).map fun (s, after) => ('[' :: '^' :: ']' :: s, after)
  | '[' :: ']' :: rest =>
    (slashedText (!inSet) rest).map fun (s, after) => ('[' :: ']' :: s, after)
  | c :: rest =>
    if c = '/' && !inSet then some ([], rest)
    else
      let inSet := if c = '[' then true else if c = ']' then false else inSet
      (slashedText inSet rest).map fun (s, after) => (c :: s, after)

def decimalText (s : List Char) : List Char × List Char :=
  let whole := s.takeWhile isDigitChar
  let rest := s.drop whole.length
  let (fraction, rest) := match rest with
    | '.' :: more => ('.' :: more.takeWhile isDigitChar, more.dropWhile isDigitChar)
    | rest => ([], rest)
  let mantissa := whole ++ fraction
  match rest with
  | c :: more =>
    if c = 'e' ∨ c = 'E' then
      let (sign, body) := match more with
        | '+' :: body => (['+'], body)
        | '-' :: body => (['-'], body)
        | body => ([], body)
      let ds := body.takeWhile isDigitChar
      if ds.isEmpty then (mantissa, rest)
      else (mantissa ++ c :: sign ++ ds, body.drop ds.length)
    else (mantissa, rest)
  | [] => (mantissa, rest)

def nameToken (s : String) (rest : List Char) : Token :=
  if keywords.contains s then .word s
  else if builtinNames.contains s then .builtin s
  else .name s (rest.head? == some '(')

/-- The token at the start of a text that starts with no blank, and what follows. -/
def tokenAt (s : List Char) : Token × List Char :=
  match s with
  | [] => (.stop, [])
  | '\n' :: rest => (.newline, rest)
  | '"' :: rest =>
    match quotedText rest with
    | some (inside, after) => (.text (unescaped inside), after)
    | none => (.unclosed ('"' :: rest.takeWhile (· != '\n')), [])
  | c :: rest =>
    if isDigitChar c || (c == '.' && rest.head?.any isDigitChar) then
      let (ds, after) := decimalText s
      (.number ds, after)
    else if isNameChar c then
      let name := s.takeWhile isNameChar
      let after := s.drop name.length
      (nameToken (String.ofList name) after, after)
    else match marks.find? fun m => m.toList.isPrefixOf s with
      | some m => (.mark m, s.drop m.length)
      | none => (.unknown c, rest)

/-- A text without the blanks and the comment at its start, and how many lines were
    joined to the first one. -/
def skipBlanks : List Char → List Char × Nat
  | ' ' :: rest | '\t' :: rest | '\r' :: rest => skipBlanks rest
  | '\\' :: '\n' :: rest =>
    let (rest, lines) := skipBlanks rest
    (rest, lines + 1)
  | '\\' :: '\r' :: '\n' :: rest =>
    let (rest, lines) := skipBlanks rest
    (rest, lines + 1)
  | '#' :: rest => (rest.dropWhile (· != '\n'), 0)
  | rest => (rest, 0)

end SourceCheck.Awk
