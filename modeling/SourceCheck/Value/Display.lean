import SourceCheck.Value.Basic
import SourceCheck.Text.Lines
import SourceCheck.Text.Quoted

/-! # How a value is shown

    `describe` writes a value so that its kind can be told: texts are quoted,
    sequences and mappings are bracketed.  `display` writes a text, a path or a
    severity as it is and every other value as `describe` does.
-/

namespace SourceCheck.Value

open SourceCheck.Number SourceCheck.Text

/-- The word for a truth value. -/
def boolText (b : Bool) : String := if b then "True" else "False"

/-- The name of a severity as a member of its enumeration. -/
def severityLabel : Severity → String
  | .error => "ERROR"
  | .warning => "WARNING"
  | .info => "INFO"

mutual

def describe : Value → String
  | .null => "None"
  | .bool b => boolText b
  | .int n => intText n
  | .double x => x.text
  | .text s => quoted s
  | .list items => "[" ++ joinWith ", " (describeItems items) ++ "]"
  | .map members => "\x7b" ++ joinWith ", " (describeMembers members) ++ "\x7d"
  | .path p => "PosixPath(" ++ quoted p ++ ")"
  | .severity s => "<SeverityLevel." ++ severityLabel s ++ ": " ++ quoted s.name ++ ">"
  | .member v => "<Enum.MEMBER: " ++ describe v ++ ">"
  | .moment m => m.describe

def describeItems : List Value → List String
  | [] => []
  | v :: rest => describe v :: describeItems rest

def describeMembers : List (String × Value) → List String
  | [] => []
  | (k, v) :: rest => (quoted k ++ ": " ++ describe v) :: describeMembers rest

end

/-- The first integer with more than 4300 decimal digits, the most that are written. -/
def unprintableInt : Nat := Nat.pow 10 4300

mutual

/-- Every integer in a value can be written. -/
def isPrintable : Value → Bool
  | .int n => n.natAbs < unprintableInt
  | .list items => arePrintable items
  | .map members => membersArePrintable members
  | .member v => isPrintable v
  | _ => true

/-- Every integer in the items of a sequence can be written. -/
def arePrintable : List Value → Bool
  | [] => true
  | v :: rest => isPrintable v && arePrintable rest

/-- Every integer in the members of a mapping can be written. -/
def membersArePrintable : List (String × Value) → Bool
  | [] => true
  | (_, v) :: rest => isPrintable v && membersArePrintable rest

end

def display : Value → String
  | .text s => s
  | .path p => p
  | .severity s => s.name
  | .member _ => "Enum.MEMBER"
  | .moment m => m.textWith " "
  | v => describe v

def noMemberWording (enumeration : String) (v : Value) : String :=
  describe v ++ " is not a valid " ++ enumeration

def noAttributeWording (name kind : String) : String :=
  "'" ++ kind ++ "' object has no attribute '" ++ name ++ "'"

end SourceCheck.Value
