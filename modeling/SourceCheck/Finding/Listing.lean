import SourceCheck.Finding.Basic
import SourceCheck.Json.Writer
import SourceCheck.Value.Display

/-! # Listings of findings

    Findings are listed for a reader as text, one entry each, or for a program
    as a JSON array.
-/

namespace SourceCheck

open SourceCheck.Text

inductive ListingFormat where
  /-- An entry `file:line:column: severity: message` per finding. -/
  | text
  /-- A JSON array with an object per finding. -/
  | json
  deriving DecidableEq, Repr, Inhabited

namespace ListingFormat

def all : List ListingFormat := [.text, .json]

def name : ListingFormat → String
  | .text => "text"
  | .json => "json"

def ofName? (word : String) : Option ListingFormat := all.find? (·.name == word)

theorem ofName?_name (f : ListingFormat) : ofName? f.name = some f := by
  cases f <;> rfl

def unknownWording (v : Value) : String := v.noMemberWording "OutputFormat"

end ListingFormat

def Finding.entry (f : Finding) : String :=
  f.place ++ ": " ++ f.severity.name ++ ": " ++ f.message

/-- The listing of findings, without a line feed at its end. -/
def listing (format : ListingFormat) (findings : List Finding) : String :=
  match format with
  | .text => joinWith "\n" (findings.map Finding.entry)
  | .json => Json.write Json.spread (.list (findings.map Finding.toValue))

end SourceCheck
