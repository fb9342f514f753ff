import SourceCheck.Finding.CheckKind
import SourceCheck.Path.Basic
import SourceCheck.Value.Basic

/-! # Findings

    A finding says what one tool has to say about one place of one file.  Its
    message may go on over several lines, of which all but the first start with
    a tab.
-/

namespace SourceCheck

open SourceCheck.Number

structure Finding where
  file : Path
  line : Int
  column : Int
  message : String
  severity : Severity
  tool : Option String
  check : Option CheckKind
  deriving DecidableEq, Repr

namespace Finding

/-- The place of a finding, with a colon between file, line and column. -/
def place (f : Finding) : String :=
  f.file.text ++ ":" ++ intText f.line ++ ":" ++ intText f.column

def logLine (f : Finding) : String := f.place ++ ": " ++ f.message

def optionalText : Option String → Value
  | some s => .text s
  | none => .null

def members (f : Finding) : List (String × Value) := [
  ("file", .text f.file.text),
  ("line", .int f.line),
  ("column", .int f.column),
  ("severity", .text f.severity.name),
  ("message", .text f.message),
  ("tool", optionalText f.tool),
  ("check", optionalText (f.check.map CheckKind.name))]

def toValue (f : Finding) : Value := .map f.members

end Finding

end SourceCheck
