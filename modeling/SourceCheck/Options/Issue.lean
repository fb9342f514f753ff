import SourceCheck.Options.Basic
import SourceCheck.Text.ShellWords
import SourceCheck.Value.Display

/-! # Issues with options

    An issue names an option under the key that was given for it, says what is
    wrong, and keeps the value.  A report lists all issues with their values,
    long ones shortened in the middle.
-/

namespace SourceCheck

open SourceCheck.Text SourceCheck.Number

/-- What can be wrong with the value of an option. -/
inductive Complaint where
  | notBool
  /-- It cannot be read as a truth value. -/
  | unreadBool
  | notNumber
  | unreadNumber
  | notPositive
  /-- The flags are neither a text nor a list. -/
  | notFlags
  /-- The flags are a list of something else than texts. -/
  | notFlagTexts
  | unreadFlags (fault : ShellWords.Fault)
  | notTags
  | notLinter
  deriving DecidableEq, Repr

namespace Complaint

def code : Complaint → String
  | .notBool => "bool_type"
  | .unreadBool => "bool_parsing"
  | .notNumber => "float_type"
  | .unreadNumber => "float_parsing"
  | .notPositive | .notFlags | .notFlagTexts | .unreadFlags _ | .notTags | .notLinter =>
    "value_error"

def message : Complaint → String
  | .notBool => "Input should be a valid boolean"
  | .unreadBool => "Input should be a valid boolean, unable to interpret input"
  | .notNumber => "Input should be a valid number"
  | .unreadNumber => "Input should be a valid number, unable to parse string as a number"
  | .notPositive => "Value error, toolTimeout must be greater than zero"
  | .notFlags => "Value error, flags must be a string or a list of strings"
  | .notFlagTexts => "Value error, flags must be a list of strings"
  | .unreadFlags fault => "Value error, " ++ fault.message
  | .notTags => "Value error, buildTags must be a string"
  | .notLinter => "Value error, linter must be a string"

end Complaint

/-- Something wrong with an option. -/
structure Issue where
  /-- The key under which the option was given. -/
  key : String
  complaint : Complaint
  given : Value
  deriving Repr

namespace Issue

/-- The octets of the longest start of a text that takes at most `limit`. -/
def startWithin (limit : Nat) : List Char → List Char
  | [] => []
  | c :: rest => if c.utf8Size ≤ limit then c :: startWithin (limit - c.utf8Size) rest else []

/-- A text of more than 50 octets without its middle: at most 25 octets of its
    start and at most 24 of its end are kept. -/
def shortened (s : String) : String :=
  if s.utf8ByteSize ≤ 50 then s
  else
    String.ofList (startWithin 25 s.toList) ++ "..."
      ++ String.ofList (startWithin 24 s.toList.reverse).reverse

/-- The address of the page that explains a class of complaints. -/
def page (code : String) : String :=
  joinWith "/" ["https:", "", "errors.pydantic.dev", "2.12", "v", code]

/-- A value as a report shows it: in short, or only its kind if an integer in it has
    more digits than are written. -/
def shownValue (v : Value) : String :=
  if v.isPrintable then shortened v.describe else "<unprintable " ++ v.kindName ++ " object>"

def text (i : Issue) : String :=
  i.key ++ "\n  " ++ i.complaint.message ++ " [type=" ++ i.complaint.code
    ++ ", input_value=" ++ shownValue i.given ++ ", input_type=" ++ i.given.kindName
    ++ "]\n    For further information visit " ++ page i.complaint.code

def header (issues : List Issue) : String :=
  natText issues.length ++ (if issues.length = 1 then " validation error" else " validation errors")
    ++ " for CheckConfigModel"

def report (issues : List Issue) : String :=
  joinWith "\n" (header issues :: issues.map text)

end Issue

end SourceCheck
