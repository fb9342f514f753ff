import SourceCheck.Finding.Severity
import SourceCheck.Number.Reading
import SourceCheck.Text.Alphanumeric
import SourceCheck.Text.DecimalDigit

/-! # Lines that report a finding

    A tool reports a finding on a line `path:line:column:severity: message`.  The
    column and the severity may be missing, and more colons may stand around the
    severity.  The line is read from left to right, each part taking as much as
    it can:

    - a path of word characters, dots and slashes, not empty,
    - a colon, the line number, a colon, and perhaps the column number,
    - colons, perhaps a word for the severity, and colons,
    - a blank, and the message up to the end.

    Digits may be of any script.  A line number of zero means one, and so does a
    column of zero or none.  Numbers of more than 4300 digits are refused.
-/

namespace SourceCheck

open SourceCheck.Text SourceCheck.Number

/-- A number has more digits than are read. -/
structure NumberTooLong where
  digits : Nat
  deriving DecidableEq, Repr

def NumberTooLong.message (e : NumberTooLong) : String := tooLongMessage e.digits

structure ReportLine where
  /-- The path as the tool wrote it. -/
  path : String
  /-- The line number, at least one. -/
  line : Nat
  /-- The column number, at least one. -/
  column : Nat
  /-- The severity the tool wrote, if any. -/
  severity : Option Severity
  message : String
  deriving DecidableEq, Repr

namespace ReportLine

/-! ## Parts of a line -/

def isPathChar (c : Char) : Bool := isWordChar c || c == '.' || c == '/'

def isColon (c : Char) : Bool := c == ':'

/-- The parts of a line, as they stand there. -/
structure Parts where
  path : List Char
  line : List Char
  column : List Char
  word : List Char
  message : List Char
  deriving DecidableEq, Repr

def afterColon : List Char → Option (List Char)
  | ':' :: rest => some rest
  | _ => none

def partsFromColumn (path line : List Char) (s : List Char) : Option Parts :=
  let column := s.takeWhile isDecimalDigit
  let s := (s.dropWhile isDecimalDigit).dropWhile isColon
  let word := s.takeWhile isWordChar
  match (s.dropWhile isWordChar).dropWhile isColon with
  | ' ' :: message => some ⟨path, line, column, word, message⟩
  | _ => none

/-- The parts of a line without line feeds. -/
def partsOf (s : List Char) : Option Parts :=
  -- each run is as long as it can be: what follows one cannot start with its characters
  let path := s.takeWhile isPathChar
  if path.isEmpty then none
  else match afterColon (s.dropWhile isPathChar) with
    | none => none
    | some s =>
      let line := s.takeWhile isDecimalDigit
      if line.isEmpty then none
      else match afterColon (s.dropWhile isDecimalDigit) with
        | none => none
        | some s => partsFromColumn path line s

def dropFinalFeed (s : List Char) : List Char :=
  match s.getLast? with
  | some '\n' => s.dropLast
  | _ => s

/-! ## Reading -/

/-- The number of a run of digits, if it is not too long. -/
def number (ds : List Char) : Except NumberTooLong Nat :=
  if digitLimit < ds.length then .error ⟨ds.length⟩ else .ok (digitsValue ds)

/-- The meaning of a word for the severity; no word has none. -/
def severityOf (word : List Char) : Option Severity :=
  if word.isEmpty then none else some (Severity.ofWord (String.ofList word))

def ofParts (p : Parts) : Except NumberTooLong ReportLine :=
  match number p.line, number p.column with
  | .error e, _ => .error e
  | .ok _, .error e => .error e
  | .ok line, .ok column =>
    .ok ⟨String.ofList p.path, max line 1, max column 1, severityOf p.word,
      String.ofList p.message⟩

/-- What a line reports: nothing if it has another form.  A line feed at its end
    does not count, any other one makes the line have another form. -/
def read (s : List Char) : Except NumberTooLong (Option ReportLine) :=
  let s := dropFinalFeed s
  if s.contains '\n' then .ok none
  else match partsOf s with
    | none => .ok none
    | some p => (ofParts p).map some

end ReportLine

end SourceCheck
