import SourceCheck.Text.Blank
import SourceCheck.Text.Lowercase

/-! # Severities

    A finding is an error, a warning or an information.  A word a tool prints is
    read leniently: blanks at its ends and case do not count, the plural of a
    severity and the usual short forms are understood, and any other word means
    an information.
-/

namespace SourceCheck

open SourceCheck.Text

/-- How serious a finding is. -/
inductive Severity where
  /-- The finding breaks the build. -/
  | error
  /-- The finding should be looked at. -/
  | warning
  | info
  deriving DecidableEq, Repr, Inhabited

namespace Severity

def all : List Severity := [.error, .warning, .info]

def name : Severity → String
  | .error => "error"
  | .warning => "warning"
  | .info => "info"

def ofName? (word : String) : Option Severity := all.find? (·.name == word)

theorem ofName?_name (s : Severity) : ofName? s.name = some s := by
  cases s <;> rfl

/-- A word without blanks at its ends, in lower case. -/
def normalWord (word : String) : String :=
  String.ofList (lower (trim isBlank word.toList))

/-- The severity a word names, blanks at its ends and case aside. -/
def read? (word : String) : Option Severity := ofName? (normalWord word)

def unknownWording (word : String) : String := "Unknown severity '" ++ word ++ "'"

/-- A word without a plural `s`, if what is left names a severity. -/
def singular (word : String) : String :=
  match word.toList.reverse with
  | 's' :: rest =>
    let stem := String.ofList rest.reverse
    if (ofName? stem).isSome then stem else word
  | _ => word

/-- The severity a short or long form stands for. -/
def synonym (word : String) : String :=
  if word = "information" then "info"
  else if word = "note" then "info"
  else if word = "err" then "error"
  else if word = "warn" then "warning"
  else word

/-- The severity a tool means by a word; an unknown word means an information. -/
def ofWord (word : String) : Severity :=
  (read? (synonym (singular (normalWord word)))).getD .info

end Severity

end SourceCheck
